import OpenApiJava.Json.Token

/-!
# Reading JSON

The tokens are offered one by one to the innermost unfinished list or mapping. A mapping keeps the
order of its entries; a key that comes again keeps its place and takes the later value.
-/

namespace OpenApiJava.Json

/-- What an unfinished list or mapping waits for. -/
inductive Need where
  | itemOrEnd
  | item
  | commaOrEnd
  | keyOrEnd
  | key
  | colon (key : String)
  | value (key : String)

/-- An unfinished list or mapping; what it holds is reversed. -/
inductive Frame where
  | list (items : List Tree) (need : Need)
  | mapping (entries : List (Tree × Tree)) (need : Need)

/-- How far the reading has come. -/
structure Progress where
  frames : List Frame
  result : Option Tree

/-- The progress once a value is complete. -/
def Progress.deliver? (frames : List Frame) (value : Tree) : Option Progress :=
  match frames with
  | [] => some ⟨[], some value⟩
  | .list items .itemOrEnd :: outer => some ⟨.list (value :: items) .commaOrEnd :: outer, none⟩
  | .list items .item :: outer => some ⟨.list (value :: items) .commaOrEnd :: outer, none⟩
  | .mapping entries (.value key) :: outer =>
      some ⟨.mapping ((.text key, value) :: entries) .commaOrEnd :: outer, none⟩
  | .mapping entries .keyOrEnd :: outer => named entries outer value
  | .mapping entries .key :: outer => named entries outer value
  | _ => none
where
  named (entries : List (Tree × Tree)) (outer : List Frame) : Tree → Option Progress
    | .text key => some ⟨.mapping entries (.colon key) :: outer, none⟩
    | _ => none

/-- A value may begin here. -/
def opens : List Frame → Bool
  | [] => true
  | .list _ .itemOrEnd :: _ => true
  | .list _ .item :: _ => true
  | .mapping _ (.value _) :: _ => true
  | _ => false

/-- The progress after one more token. Nothing follows a complete value. -/
def Progress.offer? (progress : Progress) (token : Token) : Option Progress :=
  if progress.result.isSome then none
  else
    match token, progress.frames with
    | .scalar value, frames => Progress.deliver? frames value
    | .beginList, frames =>
        if opens frames then some ⟨.list [] .itemOrEnd :: frames, none⟩ else none
    | .beginMapping, frames =>
        if opens frames then some ⟨.mapping [] .keyOrEnd :: frames, none⟩ else none
    | .endList, .list items .itemOrEnd :: outer => Progress.deliver? outer (.list items.reverse)
    | .endList, .list items .commaOrEnd :: outer => Progress.deliver? outer (.list items.reverse)
    | .endMapping, .mapping entries .keyOrEnd :: outer => finish entries outer
    | .endMapping, .mapping entries .commaOrEnd :: outer => finish entries outer
    | .comma, .list items .commaOrEnd :: outer => some ⟨.list items .item :: outer, none⟩
    | .comma, .mapping entries .commaOrEnd :: outer => some ⟨.mapping entries .key :: outer, none⟩
    | .colon, .mapping entries (.colon key) :: outer =>
        some ⟨.mapping entries (.value key) :: outer, none⟩
    | _, _ => none
where
  finish (entries : List (Tree × Tree)) (outer : List Frame) : Option Progress :=
    Progress.deliver? outer (.mapping (Entries.ofList entries.reverse))

/-- The tree that a list of tokens spells. -/
def ofTokens? (tokens : List Token) : Option Tree :=
  (tokens.foldlM Progress.offer? ⟨[], none⟩).bind (·.result)

/-- The tree that a text spells. -/
def read? (text : String) : Option Tree :=
  (tokens? text.toList).bind ofTokens?

end OpenApiJava.Json
