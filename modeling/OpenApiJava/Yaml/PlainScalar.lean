import OpenApiJava.Yaml.Cell

/-!
# Plain scalars

A plain scalar runs on over spaces and line breaks as long as more of it follows at its indentation.
One line break between words is a space; of several, all but the first are kept.
-/

namespace OpenApiJava.Yaml

/-- What stands between the last word and the next one. -/
inductive Gap where
  | none
  | spaces (run : List Char)
  | lines (first : Char) (more : List Char)

/-- The text that a gap amounts to if a word follows. -/
def Gap.text : Gap → List Char
  | none => []
  | spaces run => run
  | lines first more =>
      if first != '\n' then first :: more else if more.isEmpty then [' '] else more

/-- The gap with one more space. -/
def Gap.space : Gap → Gap
  | none => spaces [' ']
  | spaces run => spaces (' ' :: run)
  | lines first more => lines first more

/-- The gap with one more line break. -/
def Gap.lineBreak (gap : Gap) (character : Char) : Gap :=
  match gap with
  | lines first more => lines first (more ++ [character])
  | _ => lines character []

/-- The gap holds a line break. -/
def Gap.breaks : Gap → Bool
  | lines _ _ => true
  | _ => false

/-- A plain scalar that was read: its characters in reverse, the cells after it, and whether a line
break stands in front of these. -/
structure PlainScalar where
  reversed : List Char
  rest : List Cell
  brokeLine : Bool

/-- The flow indicators. -/
def isFlowMark (character : Char) : Bool :=
  [',', '[', ']', '{', '}'].contains character

/-- No word of a plain scalar goes on with this character before the next one. -/
def stopsPlain (inFlow : Bool) (character next : Char) : Bool :=
  isWide character ||
    (character == ':' && (isWide next || (inFlow && isFlowMark next))) ||
    (inFlow && (character == '?' || isFlowMark character))

/-- The plain scalar that goes on with these cells. -/
def plainFrom (inFlow : Bool) (indent : Int) (gap : Gap) (reversed : List Char) :
    List Cell → PlainScalar
  | [] => ⟨reversed, [], gap.breaks⟩
  | cell :: rest =>
      if cell.char == ' ' then plainFrom inFlow indent gap.space reversed rest
      else if isBreak cell.char then
        if separatesDocuments rest then ⟨reversed, rest, true⟩
        else plainFrom inFlow indent (gap.lineBreak cell.char) reversed rest
      else
        let afterGap := match gap with
          | .none => false
          | _ => true
        let outside := cell.char == '#' || (!inFlow && (cell.column : Int) < indent)
        if (afterGap && outside) || stopsPlain inFlow cell.char (firstChar rest) then
          ⟨reversed, cell :: rest, gap.breaks⟩
        else
          plainFrom inFlow indent .none (cell.char :: (gap.text.reverse ++ reversed)) rest

end OpenApiJava.Yaml
