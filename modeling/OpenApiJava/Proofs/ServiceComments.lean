import OpenApiJava.Proofs.CloseMarks
import OpenApiJava.Proofs.Rendering
import OpenApiJava.Proofs.ServiceUrls

/-!
# Comments of services

The comments of a service hold texts of the document, some of them as they are. Main statement: all
of its comments end where they should exactly if none of these texts holds a mark that closes a
comment.
-/

namespace OpenApiJava

open OpenApiJava.Java

namespace Source

/-! ## Blocks of a source -/

/-- A part of a source: lines of code, or a comment with the lines inside it. -/
inductive Block where
  | code (lines : List String)
  | comment (indent : String) (inner : List String)

namespace Block

def lines : Block → List String
  | code lines => lines
  | comment indent inner => (indent ++ "/**") :: inner ++ [indent ++ " */"]

def source (blocks : List Block) : String :=
  ofLines (blocks.flatMap lines)

/-- What stands between the mark that opens a comment and the one that is to close it. -/
def body (indent : String) (inner : List String) : List Char :=
  ['*'] ++ '\n' :: ((ofLines inner).toList ++ (indent.toList ++ [' ']))

/-- Behind the front part, a comment is opened that ends with the mark behind its body. -/
def EndsAfter (text front body : List Char) : Prop :=
  ∃ back, text = front ++ '/' :: '*' :: (body ++ '*' :: '/' :: back) ∧
    afterComment? (body ++ '*' :: '/' :: back) = some back

/-- Every comment among the blocks ends where its block does. -/
def EndComments (blocks : List Block) : Prop :=
  ∀ before indent inner after, blocks = before ++ comment indent inner :: after →
    EndsAfter (source blocks).toList ((source before).toList ++ indent.toList)
      (body indent inner)

theorem toList_source_comment (before after : List Block) (indent : String)
    (inner : List String) :
    (source (before ++ comment indent inner :: after)).toList =
      (source before).toList ++ indent.toList ++
        '/' :: '*' :: (body indent inner ++ '*' :: '/' :: '\n' :: (source after).toList) := by
  simp [source, body, lines, toList_ofLines]

theorem endsAfter_iff {front body text back : List Char}
    (split : text = front ++ '/' :: '*' :: (body ++ '*' :: '/' :: back)) :
    EndsAfter text front body ↔ ¬ HoldsCloseMark body := by
  constructor
  · rintro ⟨_, _, ends⟩
    exact afterComment?_append_iff.mp ends
  · intro noMark
    exact ⟨back, split, afterComment?_append_iff.mpr noMark⟩

theorem endComments_iff {blocks : List Block} :
    EndComments blocks ↔
      ∀ indent inner, comment indent inner ∈ blocks → ¬ HoldsCloseMark (body indent inner) := by
  constructor
  · intro each indent inner member
    obtain ⟨before, after, rfl⟩ := List.append_of_mem member
    exact (endsAfter_iff (toList_source_comment before after indent inner)).mp
      (each before indent inner after rfl)
  · rintro noMarks before indent inner after rfl
    refine (endsAfter_iff (toList_source_comment before after indent inner)).mpr ?_
    exact noMarks indent inner (List.mem_append_right before List.mem_cons_self)

/-- The lines of a comment do not make up a mark together. -/
theorem isChain_lines_append_iff {inner : List String} {back : List Char} :
    ((ofLines inner).toList ++ back).IsChain StaysOpen ↔
      (∀ line ∈ inner, line.toList.IsChain StaysOpen) ∧ back.IsChain StaysOpen := by
  rw [toList_ofLines]
  induction inner with
  | nil => simp
  | cons line others inductionHypothesis =>
      rw [List.flatMap_cons, List.append_assoc, List.append_assoc, List.singleton_append,
        isChain_append_cons_iff (by decide) (by decide), inductionHypothesis,
        List.forall_mem_cons, and_assoc]

theorem not_holdsCloseMark_body_iff {indent : String} (noMark : ¬ HoldsCloseMark indent.toList)
    {inner : List String} :
    ¬ HoldsCloseMark (body indent inner) ↔ ∀ line ∈ inner, ¬ HoldsCloseMark line.toList := by
  have indented : (indent.toList ++ [' ']).IsChain StaysOpen :=
    (isChain_append_cons_iff (by decide) (by decide)).mpr
      ⟨isChain_staysOpen_iff.mpr noMark, List.IsChain.nil⟩
  simp only [← isChain_staysOpen_iff, body]
  rw [isChain_append_cons_iff (by decide) (by decide), isChain_lines_append_iff]
  constructor
  · rintro ⟨_, each, _⟩
    exact each
  · intro each
    exact ⟨List.IsChain.singleton '*', each, indented⟩

end Block

/-! ## The comment of a call -/

namespace Call

def bodyLines (call : Call) : List String :=
  match call.body with
  | some body => ["     * Request body: " ++ body]
  | none => []

def commentLines (call : Call) : List String :=
  ["     * " ++ commentText call.headline, "     * <p>", "     * " ++ call.requestLine] ++
    call.bodyLines ++ call.queries.map Query.line

def blocks (relativeUrlsClass : String) (call : Call) : List Block := [
  .code ["",
    "    public static final String " ++ Text.onString Text.upper call.methodName ++
      "_METHOD = \"" ++ call.method ++ "\";",
    ""],
  .comment "    " call.commentLines,
  .code (["    public String " ++ call.methodName ++ "Url(" ++ call.signature ++ ") \x7b",
      "        String path = " ++ relativeUrlsClass ++ "." ++ identifier call.constantName ++
        ";"] ++
    (call.parameters.map replacementLine) ++
    ["        return HOST + BASE_PATH + path;",
      "    \x7d"])]

theorem flatMap_lines_blocks (relativeUrlsClass : String) (call : Call) :
    (call.blocks relativeUrlsClass).flatMap Block.lines = call.lines relativeUrlsClass := by
  have opened : "    " ++ "/**" = "    /**" := rfl
  have closed : "    " ++ " */" = "     */" := rfl
  cases body : call.body with
  | none => simp [blocks, Block.lines, lines, commentLines, bodyLines, opened, closed, body]
  | some said => simp [blocks, Block.lines, lines, commentLines, bodyLines, opened, closed, body]

end Call

namespace ServiceClass

def commentLines (service : ServiceClass) : List String :=
  [" * Request metadata for the " ++ service.baseName ++ " endpoints."]

def blocks (service : ServiceClass) : List Block :=
  [.code ["package " ++ service.packageName ++ ";",
      "",
      "import " ++ service.constantsPackage ++ "." ++ service.relativeUrlsClass ++ ";",
      ""],
    .comment "" service.commentLines,
    .code ["public class " ++ service.className ++ " \x7b",
      "",
      "    public static final String HOST = \"" ++ literalBody service.host ++ "\";",
      "    public static final String BASE_PATH = \"" ++ literalBody service.basePath ++ "\";"]] ++
    service.calls.flatMap (Call.blocks service.relativeUrlsClass) ++
    [.code ["\x7d"]]

theorem source_blocks (service : ServiceClass) :
    Block.source service.blocks = service.source := by
  have calls : (service.calls.flatMap (Call.blocks service.relativeUrlsClass)).flatMap
      Block.lines = service.calls.flatMap (Call.lines service.relativeUrlsClass) := by
    rw [List.flatMap_assoc]
    simp only [Call.flatMap_lines_blocks]
  have opened : "" ++ "/**" = "/**" := rfl
  have closed : "" ++ " */" = " */" := rfl
  simp [Block.source, source, blocks, lines, commentLines, Block.lines, calls, opened, closed]

theorem comment_mem_blocks_iff {service : ServiceClass} {indent : String} {inner : List String} :
    Block.comment indent inner ∈ service.blocks ↔
      (indent = "" ∧ inner = service.commentLines) ∨
        ∃ call ∈ service.calls, indent = "    " ∧ inner = call.commentLines := by
  simp [blocks, Call.blocks]

end ServiceClass

/-! ## Texts of the document in comments -/

theorem holdsCloseMark_between_iff {front text back : String}
    (frontStays : ¬ HoldsCloseMark front.toList) (noStar : '*' ∉ front.toList.getLast?)
    (backStays : ¬ HoldsCloseMark back.toList) (noSlash : '/' ∉ back.toList.head?) :
    HoldsCloseMark (front ++ text ++ back).toList ↔ HoldsCloseMark text.toList := by
  rw [← not_iff_not, ← isChain_staysOpen_iff, ← isChain_staysOpen_iff, String.toList_append,
    String.toList_append]
  exact isChain_between_iff (isChain_staysOpen_iff.mpr frontStays) noStar
    (isChain_staysOpen_iff.mpr backStays) noSlash

theorem holdsCloseMark_behind_iff {front text : String}
    (frontStays : ¬ HoldsCloseMark front.toList) (noStar : '*' ∉ front.toList.getLast?) :
    HoldsCloseMark (front ++ text).toList ↔ HoldsCloseMark text.toList := by
  have whole : HoldsCloseMark (front ++ text ++ "").toList ↔ HoldsCloseMark text.toList :=
    holdsCloseMark_between_iff frontStays noStar (by decide) (by decide)
  rwa [String.append_empty] at whole

theorem not_holdsCloseMark_commentText (text : String) :
    ¬ HoldsCloseMark (commentText text).toList :=
  isChain_staysOpen_iff.mp (isChain_commentText text)

theorem holdsCloseMark_in_front_iff {text back : String}
    (backStays : ¬ HoldsCloseMark back.toList) (noSlash : '/' ∉ back.toList.head?) :
    HoldsCloseMark (text ++ back).toList ↔ HoldsCloseMark text.toList := by
  have whole : HoldsCloseMark ("" ++ text ++ back).toList ↔ HoldsCloseMark text.toList :=
    holdsCloseMark_between_iff (by decide) (by decide) backStays noSlash
  rwa [String.empty_append] at whole

/-- The name of a query parameter may close its comment, its description does not. -/
theorem Query.holdsCloseMark_line_iff (query : Query) :
    HoldsCloseMark query.line.toList ↔ HoldsCloseMark query.name.toList := by
  have described : ¬ HoldsCloseMark (": " ++ commentText query.description).toList := by
    rw [holdsCloseMark_behind_iff (by decide) (by decide)]
    exact not_holdsCloseMark_commentText query.description
  have named : HoldsCloseMark ("     * Query parameter " ++ query.name ++
      (if query.required then " (required)" else "")).toList ↔
        HoldsCloseMark query.name.toList := by
    by_cases required : query.required = true
    · rw [if_pos required]
      exact holdsCloseMark_between_iff (by decide) (by decide) (by decide) (by decide)
    · rw [if_neg required]
      exact holdsCloseMark_between_iff (by decide) (by decide) (by decide) (by decide)
  unfold line
  -- The description is escaped, so that only what stands in front of it counts.
  by_cases empty : query.description.isEmpty = true
  · rw [if_pos empty, String.append_empty]
    exact named
  · rw [if_neg empty, holdsCloseMark_in_front_iff described (by simp)]
    exact named

theorem Call.holdsCloseMark_requestLine_iff {call : Call} {method : HttpMethod}
    (isMethod : call.method = method.name) :
    HoldsCloseMark ("     * " ++ call.requestLine).toList ↔ HoldsCloseMark call.path.toList := by
  have whole : "     * " ++ call.requestLine = "     * " ++ method.name ++ " " ++ call.path := by
    simp only [requestLine, isMethod, String.append_assoc]
  rw [whole]
  cases method with
  | get => exact holdsCloseMark_behind_iff (by decide) (by decide)
  | post => exact holdsCloseMark_behind_iff (by decide) (by decide)
  | put => exact holdsCloseMark_behind_iff (by decide) (by decide)
  | delete => exact holdsCloseMark_behind_iff (by decide) (by decide)

theorem Call.forall_bodyLines_iff {call : Call} :
    (∀ line ∈ call.bodyLines, ¬ HoldsCloseMark line.toList) ↔
      ∀ body ∈ call.body, ¬ HoldsCloseMark body.toList := by
  unfold bodyLines
  cases call.body with
  | none => simp
  | some body =>
      have behind : HoldsCloseMark ("     * Request body: " ++ body).toList ↔
          HoldsCloseMark body.toList :=
        holdsCloseMark_behind_iff (by decide) (by decide)
      simpa using behind.not

/-- The lines of the comment of a call hold a mark where its path, its body or the name of a query
parameter does. -/
theorem Call.forall_commentLines_iff {call : Call} {method : HttpMethod}
    (isMethod : call.method = method.name) :
    (∀ line ∈ call.commentLines, ¬ HoldsCloseMark line.toList) ↔
      ¬ HoldsCloseMark call.path.toList ∧
        (∀ body ∈ call.body, ¬ HoldsCloseMark body.toList) ∧
        ∀ query ∈ call.queries, ¬ HoldsCloseMark query.name.toList := by
  have headline : ¬ HoldsCloseMark ("     * " ++ commentText call.headline).toList := by
    rw [holdsCloseMark_behind_iff (by decide) (by decide)]
    exact not_holdsCloseMark_commentText call.headline
  have paragraph : ¬ HoldsCloseMark "     * <p>".toList := by decide
  have queries : (∀ line ∈ call.queries.map Query.line, ¬ HoldsCloseMark line.toList) ↔
      ∀ query ∈ call.queries, ¬ HoldsCloseMark query.name.toList := by
    simp only [List.forall_mem_map, Query.holdsCloseMark_line_iff]
  unfold commentLines
  rw [List.forall_mem_append, List.forall_mem_append, queries, forall_bodyLines_iff,
    List.forall_mem_cons, List.forall_mem_cons, List.forall_mem_singleton,
    holdsCloseMark_requestLine_iff isMethod]
  simp only [headline, paragraph, not_false_eq_true, true_and, and_assoc]

theorem ServiceClass.endComments_iff {service : ServiceClass}
    (haveMethods : ∀ call ∈ service.calls, ∃ method : HttpMethod, call.method = method.name) :
    Block.EndComments service.blocks ↔
      ¬ HoldsCloseMark service.baseName.toList ∧
        ∀ call ∈ service.calls, ¬ HoldsCloseMark call.path.toList ∧
          (∀ body ∈ call.body, ¬ HoldsCloseMark body.toList) ∧
          ∀ query ∈ call.queries, ¬ HoldsCloseMark query.name.toList := by
  have noMark : ¬ HoldsCloseMark "".toList := by decide
  have noMarkIndented : ¬ HoldsCloseMark "    ".toList := by decide
  have named : (∀ line ∈ service.commentLines, ¬ HoldsCloseMark line.toList) ↔
      ¬ HoldsCloseMark service.baseName.toList := by
    unfold commentLines
    rw [List.forall_mem_singleton,
      holdsCloseMark_between_iff (by decide) (by decide) (by decide) (by decide)]
  rw [Block.endComments_iff]
  constructor
  · intro each
    constructor
    · have whole := each "" service.commentLines (comment_mem_blocks_iff.mpr (.inl ⟨rfl, rfl⟩))
      exact named.mp ((Block.not_holdsCloseMark_body_iff noMark).mp whole)
    · intro call isCall
      obtain ⟨method, isMethod⟩ := haveMethods call isCall
      have whole := each "    " call.commentLines
        (comment_mem_blocks_iff.mpr (.inr ⟨call, isCall, rfl, rfl⟩))
      exact (Call.forall_commentLines_iff isMethod).mp
        ((Block.not_holdsCloseMark_body_iff noMarkIndented).mp whole)
  · rintro ⟨base, calls⟩ indent inner member
    rcases comment_mem_blocks_iff.mp member with ⟨rfl, rfl⟩ | ⟨call, isCall, rfl, rfl⟩
    · exact (Block.not_holdsCloseMark_body_iff noMark).mpr (named.mpr base)
    · obtain ⟨method, isMethod⟩ := haveMethods call isCall
      exact (Block.not_holdsCloseMark_body_iff noMarkIndented).mpr
        ((Call.forall_commentLines_iff isMethod).mpr (calls call isCall))

end Source

open Source

/-! ## The services of a document -/

theorem BodyType.not_holdsCloseMark_text_iff (type : BodyType) :
    ¬ HoldsCloseMark type.text.toList ↔
      ∀ typeName ∈ type.typeName?, ¬ HoldsCloseMark typeName.toList := by
  have noMark : ¬ HoldsCloseMark "unresolved".toList := by decide
  cases type with
  | unresolved => simpa [text, typeName?] using noMark
  | single typeName =>
      by_cases empty : typeName = ""
      · have noMarkEmpty : ¬ HoldsCloseMark "".toList := by decide
        subst empty
        exact iff_of_true noMark (by simpa [typeName?] using noMarkEmpty)
      · simp [text, typeName?, empty]
  | listOf typeName =>
      have inside : HoldsCloseMark ("List<" ++ typeName ++ ">").toList ↔
          HoldsCloseMark typeName.toList :=
        holdsCloseMark_between_iff (by decide) (by decide) (by decide) (by decide)
      simpa [text, typeName?] using inside.not

/-- Nothing of the endpoint that stands in comments as it is holds a mark that closes one. -/
def Endpoint.KeepsComments (endpoint : Endpoint) : Prop :=
  ¬ HoldsCloseMark endpoint.path.toList ∧
    (∀ type ∈ endpoint.body, ∀ typeName ∈ type.typeName?, ¬ HoldsCloseMark typeName.toList) ∧
    ∀ query ∈ endpoint.queryParameters, ¬ HoldsCloseMark query.name.toList

instance (endpoint : Endpoint) : Decidable endpoint.KeepsComments :=
  inferInstanceAs (Decidable (¬ HoldsCloseMark endpoint.path.toList ∧
    (∀ type ∈ endpoint.body, ∀ typeName ∈ type.typeName?, ¬ HoldsCloseMark typeName.toList) ∧
    ∀ query ∈ endpoint.queryParameters, ¬ HoldsCloseMark query.name.toList))

theorem Endpoint.keepsComments_iff_toCall {endpoint : Endpoint} :
    endpoint.KeepsComments ↔
      ¬ HoldsCloseMark endpoint.toCall.path.toList ∧
        (∀ body ∈ endpoint.toCall.body, ¬ HoldsCloseMark body.toList) ∧
        ∀ query ∈ endpoint.toCall.queries, ¬ HoldsCloseMark query.name.toList := by
  have bodies : (∀ body ∈ endpoint.toCall.body, ¬ HoldsCloseMark body.toList) ↔
      ∀ type ∈ endpoint.body, ∀ typeName ∈ type.typeName?, ¬ HoldsCloseMark typeName.toList := by
    simp only [toCall, Option.mem_map, forall_exists_index, and_imp, forall_apply_eq_imp_iff₂,
      BodyType.not_holdsCloseMark_text_iff]
  have queries : (∀ query ∈ endpoint.toCall.queries, ¬ HoldsCloseMark query.name.toList) ↔
      ∀ query ∈ endpoint.queryParameters, ¬ HoldsCloseMark query.name.toList := by
    simp only [toCall, List.forall_mem_map]
  rw [bodies, queries]
  rfl

theorem HttpMethod.upper_name (method : HttpMethod) :
    Text.onString Text.upper method.name = method.name := by
  cases method <;> rfl

theorem Service.endComments_iff {document : Document} {service : Service}
    (member : service ∈ document.services) (settings : Settings) :
    Block.EndComments (service.toServiceClass settings).blocks ↔
      ¬ HoldsCloseMark service.baseName.toList ∧
        ∀ endpoint ∈ service.endpoints, endpoint.KeepsComments := by
  -- A method has one of four names, none of which ends in a star.
  have haveMethods : ∀ call ∈ (service.toServiceClass settings).calls,
      ∃ method : HttpMethod, call.method = method.name := by
    intro call isCall
    obtain ⟨endpoint, offered, rfl⟩ := List.mem_map.mp isCall
    obtain ⟨_, _, method, _, _, _, rfl⟩ :=
      Document.mem_endpoints_iff.mp (Document.mem_endpoints_of_mem_services member offered)
    exact ⟨method, method.upper_name⟩
  have calls : (∀ call ∈ (service.toServiceClass settings).calls,
      ¬ HoldsCloseMark call.path.toList ∧
        (∀ body ∈ call.body, ¬ HoldsCloseMark body.toList) ∧
        ∀ query ∈ call.queries, ¬ HoldsCloseMark query.name.toList) ↔
      ∀ endpoint ∈ service.endpoints, endpoint.KeepsComments := by
    simp only [Endpoint.keepsComments_iff_toCall]
    exact List.forall_mem_map
  rw [ServiceClass.endComments_iff haveMethods, calls]
  rfl

theorem Document.eq_services_of_ofDocument {document : Document} {services : List Service}
    (planned : Service.ofDocument document = .ok services) :
    services = document.services := by
  rcases Service.ofDocument_cases document with ⟨_, _, fails⟩ | ⟨_, succeeds⟩
  · rw [planned] at fails
    cases fails
  · rw [planned] at succeeds
    exact Except.ok.inj succeeds

/-- The comments of a service all end where they should exactly if neither the name of the service
nor a path, the type of a body or the name of a query parameter holds a mark that closes one. Tags
count by the names they give; summaries and descriptions never matter. -/
theorem services_end_comments_iff (document : Document) (settings : Settings)
    (services : List Service) (planned : Service.ofDocument document = .ok services) :
    ∀ service ∈ services, ∃ source,
      Template.serviceClass.render (service.context settings) = .ok source ∧
        source = Block.source (service.toServiceClass settings).blocks ∧
        (Block.EndComments (service.toServiceClass settings).blocks ↔
          ¬ HoldsCloseMark service.baseName.toList ∧
            ∀ endpoint ∈ service.endpoints, endpoint.KeepsComments) := by
  intro service member
  rw [Document.eq_services_of_ofDocument planned] at member
  exact ⟨_, Template.render_serviceClass service settings,
    (ServiceClass.source_blocks (service.toServiceClass settings)).symm,
    Service.endComments_iff member settings⟩

theorem petShop_ends_comments :
    Block.EndComments (petService.toServiceClass petSettings).blocks := by
  have planned : Service.ofDocument petShop = .ok petShop.services :=
    Document.ofDocument_eq_services rfl
  have isService : petService ∈ petShop.services := by
    rw [services_petShop]
    exact List.mem_cons_of_mem _ List.mem_cons_self
  obtain ⟨_, _, _, iff⟩ :=
    services_end_comments_iff petShop petSettings petShop.services planned petService isService
  exact iff.mpr (by decide +kernel)

/-- A shop with a wildcard in a path, which puts a star in front of a slash. -/
def wildcardShop : Document :=
  { petShop with
    paths := [("/files/*/meta", ⟨some ⟨none, none, none, ["files"], [], none⟩, none, none, none,
      []⟩)] }

/-- The comment of a call does not end where it should if its path holds a mark. -/
theorem wildcardShop_breaks_comment :
    ∃ services, Service.ofDocument wildcardShop = .ok services ∧
      ∃ service ∈ services,
        ¬ Block.EndComments (service.toServiceClass petSettings).blocks := by
  have planned : Service.ofDocument wildcardShop = .ok wildcardShop.services :=
    Document.ofDocument_eq_services rfl
  have isService : wildcardShop.serviceOfTag petServer "files" ∈ wildcardShop.services :=
    Document.mem_services_iff.mpr ⟨petServer, [], "files", rfl, List.mem_cons_self, rfl⟩
  refine ⟨wildcardShop.services, planned, _, isService, ?_⟩
  rw [Service.endComments_iff isService petSettings]
  decide +kernel

end OpenApiJava
