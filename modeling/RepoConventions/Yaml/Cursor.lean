/-!
# Places in a YAML text

A place counts the characters, lines and columns passed. Five characters break a line, and a carriage return
with its line feed is one break.
-/

namespace RepoConventions.Yaml

def isBreak (c : Char) : Bool :=
  c = '\n' || c = '\r' || c = '\u0085' || c = '\u2028' || c = '\u2029'

def isSpaceOrTab (c : Char) : Bool := c = ' ' || c = '\t'

/-- A blank or a line break. -/
def isGap (c : Char) : Bool := isSpaceOrTab c || isBreak c

/-- Whether a gap or the end of the text stands here. -/
def gapHere : List Char → Bool
  | [] => true
  | c :: _ => isGap c

/-- Letters, digits, `_` and `-`. -/
def isWordChar (c : Char) : Bool :=
  ('0' ≤ c && c ≤ '9') || ('A' ≤ c && c ≤ 'Z') || ('a' ≤ c && c ≤ 'z') || c = '_' || c = '-'

/-- The characters a text may hold. -/
def isPrintable (c : Char) : Bool :=
  let n := c.toNat
  n = 9 || n = 10 || n = 13 || (0x20 ≤ n && n ≤ 0x7E) || n = 0x85 || (0xA0 ≤ n && n ≤ 0xD7FF) ||
    (0xE000 ≤ n && n ≤ 0xFFFD) || 0x10000 ≤ n

/-- What a line break is read as. -/
def breakText (c : Char) : List Char := if c = '\u2028' || c = '\u2029' then [c] else ['\n']

structure Place where
  index : Nat
  line : Nat
  column : Nat
  deriving DecidableEq, Repr

namespace Place

def start : Place := ⟨0, 0, 0⟩

/-- Past `n` characters of the line. -/
def along (p : Place) (n : Nat) : Place := ⟨p.index + n, p.line, p.column + n⟩

/-- Past a line break of `width` characters. -/
def nextLine (p : Place) (width : Nat) : Place := ⟨p.index + width, p.line + 1, 0⟩

end Place

/-- The text that is left, and where it begins. -/
structure Cursor where
  rest : List Char
  place : Place

namespace Cursor

def drop (c : Cursor) (n : Nat) : Cursor := ⟨c.rest.drop n, c.place.along n⟩

/-- Past the characters of this line that satisfy `p`. -/
def dropWhile (c : Cursor) (p : Char → Bool) : Cursor :=
  ⟨c.rest.dropWhile p, c.place.along (c.rest.takeWhile p).length⟩

/-- Past a line break, if one stands here. -/
def dropBreak (c : Cursor) : Cursor :=
  match c.rest with
  | '\r' :: '\n' :: rest => ⟨rest, c.place.nextLine 2⟩
  | b :: rest => if isBreak b then ⟨rest, c.place.nextLine 1⟩ else c
  | [] => c

/-- Past blanks, and past a comment that follows them. -/
def dropBlanksAndComment (c : Cursor) : Cursor :=
  let c := c.dropWhile isSpaceOrTab
  match c.rest with
  | '#' :: _ => c.dropWhile fun d => !isBreak d
  | _ => c

end Cursor

/-- Whether `---` or `...` stands alone at the beginning of what is left. -/
def documentMarkHere (cs : List Char) : Bool :=
  match cs with
  | '-' :: '-' :: '-' :: rest => gapHere rest
  | '.' :: '.' :: '.' :: rest => gapHere rest
  | _ => false

end RepoConventions.Yaml
