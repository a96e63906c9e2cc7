import RepoConventions.Yaml.BlockScalar
import RepoConventions.Yaml.Naming
import RepoConventions.Yaml.PlainScalar
import RepoConventions.Yaml.QuotedScalar

/-!
# From text to tokens

Indentation opens and closes block collections. A node on one line may turn out to be the key of a `:` after it;
such a possible key is kept aside with the number of its first token, and the key token is put there when the
`:` comes.
-/

namespace RepoConventions.Yaml

/-- A node that a `:` on the same line, within 1024 characters, makes a key. -/
structure PossibleKey where
  /-- In a block mapping a node at the indentation can only be a key. -/
  required : Bool
  tokenNumber : Nat
  place : Place

structure Tokenizer where
  cursor : Cursor
  /-- The tokens so far, the last one first. -/
  tokens : List Token
  count : Nat
  indent : Int
  outerIndents : List Int
  keyAllowed : Bool
  /-- The possible key of the block context, and of each open bracket, the innermost first. -/
  possibleKey : Option PossibleKey
  outerKeys : List (Option PossibleKey)

namespace Tokenizer

def start (text : List Char) : Tokenizer where
  cursor := ⟨text, .start⟩
  tokens := []
  count := 0
  indent := -1
  outerIndents := []
  keyAllowed := true
  possibleKey := none
  outerKeys := []

def inFlow (t : Tokenizer) : Bool := !t.outerKeys.isEmpty

def place (t : Tokenizer) : Place := t.cursor.place

def rest (t : Tokenizer) : List Char := t.cursor.rest

def emit (t : Tokenizer) (token : Token) : Tokenizer :=
  { t with tokens := token :: t.tokens, count := t.count + 1 }

/-- Puts a token where the one of that number was. -/
def emitAt (t : Tokenizer) (number : Nat) (token : Token) : Tokenizer :=
  let later := t.count - number
  { t with tokens := t.tokens.take later ++ token :: t.tokens.drop later, count := t.count + 1 }

def isStale (t : Tokenizer) (k : PossibleKey) : Bool :=
  k.place.line < t.place.line || k.place.index + 1024 < t.place.index

/-- Forgets possible keys that the text has left behind; a required one may not be. -/
def dropStaleKeys (t : Tokenizer) : Except Error Tokenizer :=
  let keep (k : Option PossibleKey) : Except Error (Option PossibleKey) :=
    match k with
    | some key => if t.isStale key then (if key.required then .error .missingColon else .ok none) else .ok k
    | none => .ok none
  do return { t with possibleKey := ← keep t.possibleKey, outerKeys := ← t.outerKeys.mapM keep }

/-- Forgets the possible key of the innermost context. -/
def dropKey (t : Tokenizer) : Except Error Tokenizer :=
  if (t.possibleKey.map (·.required)).getD false then .error .missingColon
  else .ok { t with possibleKey := none }

/-- Remembers that a key may begin here. -/
def markKey (t : Tokenizer) : Except Error Tokenizer :=
  if t.keyAllowed then do
    let required := !t.inFlow && t.indent = t.place.column
    let t ← t.dropKey
    return { t with possibleKey := some ⟨required, t.count, t.place⟩ }
  else .ok t

/-- Opens a block collection if this column is further in. -/
def openBlock (t : Tokenizer) (column : Nat) (add : Tokenizer → Token → Tokenizer) (token : Token) : Tokenizer :=
  if !t.inFlow && t.indent < column then
    add { t with indent := column, outerIndents := t.indent :: t.outerIndents } token
  else t

private def closeFrom (column : Int) (t : Tokenizer) : Int → List Int → Tokenizer
  | indent, outer :: more =>
    if indent > column then closeFrom column (t.emit .blockEnd) outer more
    else { t with indent, outerIndents := outer :: more }
  | indent, [] => { t with indent, outerIndents := [] }

/-- Closes the block collections that are further in than this column. -/
def closeBlocks (t : Tokenizer) (column : Int) : Tokenizer :=
  if t.inFlow then t else closeFrom column t t.indent t.outerIndents

private def gapFrom (inFlow : Bool) (comment keyAllowed : Bool) (p : Place) : List Char → Bool × Cursor
  | [] => (keyAllowed, ⟨[], p⟩)
  | '\r' :: '\n' :: rest => gapFrom inFlow false (keyAllowed || !inFlow) (p.nextLine 2) rest
  | c :: rest =>
    if isBreak c then gapFrom inFlow false (keyAllowed || !inFlow) (p.nextLine 1) rest
    else if comment || c = ' ' || (c = '\t' && (inFlow || !keyAllowed)) || (c = '\uFEFF' && p.index = 0) then
      gapFrom inFlow comment keyAllowed (p.along 1) rest
    else if c = '#' then gapFrom inFlow true keyAllowed (p.along 1) rest
    else (keyAllowed, ⟨c :: rest, p⟩)

/-- Passes blanks, comments, line breaks, and a byte order mark at the beginning, which takes a column. Outside brackets
a new line may begin a key, and a tab may not. -/
def passGap (t : Tokenizer) : Tokenizer :=
  let (keyAllowed, cursor) := gapFrom t.inFlow false t.keyAllowed t.place t.rest
  { t with keyAllowed, cursor }

/-- Emits a token of `width` characters. -/
def indicator (t : Tokenizer) (token : Token) (width : Nat) : Tokenizer :=
  { t with cursor := t.cursor.drop width }.emit token

private def atDocumentLevel (t : Tokenizer) : Except Error Tokenizer := do
  let t ← (t.closeBlocks (-1)).dropKey
  return { t with keyAllowed := false }

def documentMark (t : Tokenizer) (token : Token) : Except Error Tokenizer := do
  return (← t.atDocumentLevel).indicator token 3

def directiveLine (t : Tokenizer) : Except Error Tokenizer := do
  let t ← t.atDocumentLevel
  let (token, cursor) ← directive t.cursor
  return { t with cursor }.emit token

def openBracket (t : Tokenizer) (token : Token) : Except Error Tokenizer := do
  let t ← t.markKey
  let t := { t with possibleKey := none, outerKeys := t.possibleKey :: t.outerKeys, keyAllowed := true }
  return t.indicator token 1

def closeBracket (t : Tokenizer) (token : Token) : Except Error Tokenizer := do
  let t ← t.dropKey
  let t := match t.outerKeys with
    | k :: ks => { t with possibleKey := k, outerKeys := ks }
    | [] => t
  return { t with keyAllowed := false }.indicator token 1

def flowComma (t : Tokenizer) : Except Error Tokenizer := do
  return { ← t.dropKey with keyAllowed := true }.indicator .flowEntry 1

def blockDash (t : Tokenizer) : Except Error Tokenizer := do
  if !t.inFlow && !t.keyAllowed then throw .misplacedIndicator
  let t ← (t.openBlock t.place.column emit .blockSequenceStart).dropKey
  return { t with keyAllowed := true }.indicator .blockEntry 1

def questionMark (t : Tokenizer) : Except Error Tokenizer := do
  if !t.inFlow && !t.keyAllowed then throw .misplacedIndicator
  let t ← (t.openBlock t.place.column emit .blockMappingStart).dropKey
  return { t with keyAllowed := !t.inFlow }.indicator .key 1

def colon (t : Tokenizer) : Except Error Tokenizer :=
  match t.possibleKey with
  | some k =>
    let t := t.emitAt k.tokenNumber .key
    let t := t.openBlock k.place.column (fun t => t.emitAt k.tokenNumber) .blockMappingStart
    .ok ({ t with possibleKey := none, keyAllowed := false }.indicator .value 1)
  | none =>
    if !t.inFlow && !t.keyAllowed then .error .misplacedIndicator
    else
      let t := t.openBlock t.place.column emit .blockMappingStart
      .ok ({ t with keyAllowed := !t.inFlow }.indicator .value 1)

/-- Emits a token that may begin a key and after which none may begin. -/
private def node (t : Tokenizer) (read : Tokenizer → Except Error (Token × Cursor)) : Except Error Tokenizer := do
  let t ← t.markKey
  let (token, cursor) ← read t
  return { t with keyAllowed := false, cursor }.emit token

def anchorOrAlias (t : Tokenizer) (token : String → Token) : Except Error Tokenizer :=
  t.node fun t => do
    let (name, c) ← anchorName t.cursor
    return (token name, c)

def tag (t : Tokenizer) : Except Error Tokenizer :=
  t.node fun t => do
    let (name, c) ← tagName t.inFlow t.cursor
    return (.tag name, c)

def quoted (t : Tokenizer) (double : Bool) : Except Error Tokenizer :=
  t.node fun t => do
    let (text, c) ← quotedScalar double t.cursor
    return (.scalar text false, c)

def block (t : Tokenizer) (folded : Bool) : Except Error Tokenizer := do
  let t ← t.dropKey
  let (text, cursor) ← blockScalar folded t.indent t.cursor
  return { t with keyAllowed := true, cursor }.emit (.scalar text false)

def plain (t : Tokenizer) : Except Error Tokenizer := do
  let t ← t.markKey
  let s ← plainScalar t.inFlow (t.indent + 1) t.cursor
  return { t with keyAllowed := s.endsLine, cursor := s.next }.emit (.scalar s.text true)

/-- Whether a plain scalar may begin with `c`, standing before `rest`. -/
def startsPlain (inFlow : Bool) (c : Char) (rest : List Char) : Bool :=
  if c = '-' then !(rest.head?.map isSpaceOrTab).getD false
  else if c = '?' || c = ':' then !inFlow && !gapHere rest
  else !(isGap c || [',', '[', ']', '{', '}', '#', '&', '*', '!', '|', '>', '\'', '"', '%', '@', '`'].contains c)

/-- Emits the token that begins here, with the tokens it implies. -/
def next (t : Tokenizer) (c : Char) (rest : List Char) : Except Error Tokenizer :=
  let lineStart := t.place.column = 0
  if lineStart && c = '%' then t.directiveLine
  else if lineStart && documentMarkHere (c :: rest) then
    t.documentMark (if c = '-' then .documentStart else .documentEnd)
  else if c = '[' then t.openBracket .flowSequenceStart
  else if c = '{' then t.openBracket .flowMappingStart
  else if c = ']' then t.closeBracket .flowSequenceEnd
  else if c = '}' then t.closeBracket .flowMappingEnd
  else if c = ',' then t.flowComma
  else if c = '-' && gapHere rest then t.blockDash
  else if c = '?' && (t.inFlow || gapHere rest) then t.questionMark
  else if c = ':' && (t.inFlow || gapHere rest) then t.colon
  else if c = '*' then t.anchorOrAlias .alias
  else if c = '&' then t.anchorOrAlias .anchor
  else if c = '!' then t.tag
  else if c = '|' && !t.inFlow then t.block false
  else if c = '>' && !t.inFlow then t.block true
  else if c = '\'' then t.quoted false
  else if c = '"' then t.quoted true
  else if startsPlain t.inFlow c rest then t.plain
  else .error .noTokenStartsHere

/-- Ends the text: every block collection closes. -/
def finish (t : Tokenizer) : Except Error (List Token) := do
  let t ← (t.closeBlocks (-1)).dropKey
  return t.tokens.reverse

/-- Emits the tokens of what is left. Each takes a character, so the fuel is what is left. -/
def run : Nat → Tokenizer → Except Error (List Token)
  | 0, t => t.finish
  | fuel + 1, t => do
    let t ← t.passGap.dropStaleKeys
    let t := t.closeBlocks t.place.column
    match t.rest with
    | [] => t.finish
    | c :: rest => run fuel (← t.next c rest)

end Tokenizer

/-- The tokens of a text. -/
def tokens (text : String) : Except Error (List Token) :=
  let cs := text.toList
  if cs.all isPrintable then (Tokenizer.start cs).run (cs.length + 1) else .error .controlCharacter

end RepoConventions.Yaml
