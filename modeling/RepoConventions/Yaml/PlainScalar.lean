import RepoConventions.Yaml.Folding

/-!
# Plain scalars

A plain scalar ends at `: `, at a comment, at a document mark, at a line that is not indented enough, and
inside brackets at their punctuation.
-/

namespace RepoConventions.Yaml

def isFlowPunctuation (c : Char) : Bool := c = ',' || c = '[' || c = ']' || c = '{' || c = '}'

/-- Whether a `:` is followed by something that may not follow it inside brackets. -/
def colonBeforePunctuation : List Char → Bool
  | c :: _ => isFlowPunctuation c || c = '?'
  | [] => false

structure PlainScalar where
  text : String
  /-- Whether the scalar's last gap crosses a line. -/
  endsLine : Bool
  next : Cursor

private def plainEnd (f : Folding) (cs : List Char) (p : Place) : PlainScalar :=
  ⟨f.result, f.afterBreak, ⟨cs, p⟩⟩

/-- Reads on from inside a plain scalar. `indent` is the least column of its later lines. -/
def plainFrom (inFlow : Bool) (indent : Int) (f : Folding) (p : Place) :
    List Char → Except Error PlainScalar
  | [] => .ok (plainEnd f [] p)
  | '\r' :: '\n' :: rest => plainFrom inFlow indent (f.addBreak ['\n']) (p.nextLine 2) rest
  | c :: rest =>
    if isBreak c then plainFrom inFlow indent (f.addBreak (breakText c)) (p.nextLine 1) rest
    else if isSpaceOrTab c then
      if f.afterBreak && c = '\t' && (p.column : Int) < indent then .error .misplacedTab
      else plainFrom inFlow indent (f.addBlank c) (p.along 1) rest
    else if f.inGap && ((!inFlow && (p.column : Int) < indent) || c = '#' ||
        (p.column = 0 && documentMarkHere (c :: rest))) then .ok (plainEnd f (c :: rest) p)
    else if inFlow && c = ':' && colonBeforePunctuation rest then .error .misplacedIndicator
    else if (c = ':' && gapHere rest) || (inFlow && isFlowPunctuation c) then .ok (plainEnd f (c :: rest) p)
    else plainFrom inFlow indent (f.addChar c) (p.along 1) rest

def plainScalar (inFlow : Bool) (indent : Int) (c : Cursor) : Except Error PlainScalar :=
  plainFrom inFlow indent .empty c.place c.rest

end RepoConventions.Yaml
