import RepoConventions.Text.Ascii
import RepoConventions.Yaml.Folding

/-!
# Quoted scalars

Between single quotes a quote is written twice. Between double quotes a backslash begins an escape: one letter,
a code point of two, four or eight hexadecimal digits, or a line break that is not read.
-/

namespace RepoConventions.Yaml

def escapedChar? (c : Char) : Option Char :=
  match c with
  | '0' => some '\x00'
  | 'a' => some '\x07'
  | 'b' => some '\x08'
  | 't' => some '\t'
  | '\t' => some '\t'
  | 'n' => some '\n'
  | 'v' => some '\x0b'
  | 'f' => some '\x0c'
  | 'r' => some '\r'
  | 'e' => some '\x1b'
  | ' ' => some ' '
  | '"' => some '"'
  | '/' => some '/'
  | '\\' => some '\\'
  | 'N' => some '\u0085'
  | '_' => some '\u00a0'
  | 'L' => some '\u2028'
  | 'P' => some '\u2029'
  | _ => none

/-- The character with the code point that hexadecimal digits give. -/
def charOfHex? (digits : List Char) : Option Char := do
  let n ← Text.natOfDigits? 16 digits
  if n.isValidChar then some (Char.ofNat n) else none

/-- Reads on from inside single quotes. -/
def singleFrom (f : Folding) (p : Place) : List Char → Except Error (String × Cursor)
  | [] => .error .unclosedQuote
  | '\r' :: '\n' :: rest => singleFrom (f.addBreak ['\n']) (p.nextLine 2) rest
  | '\'' :: '\'' :: rest => singleFrom (f.addChar '\'') (p.along 2) rest
  | c :: rest =>
    if isBreak c then singleFrom (f.addBreak (breakText c)) (p.nextLine 1) rest
    else if isSpaceOrTab c then singleFrom (f.addBlank c) (p.along 1) rest
    else if c = '\'' then .ok (f.settle.result, ⟨rest, p.along 1⟩)
    else if p.column = 0 && documentMarkHere (c :: rest) then .error .documentMarkInQuote
    else singleFrom (f.addChar c) (p.along 1) rest

/-- Reads on from inside double quotes. -/
def doubleFrom (f : Folding) (p : Place) : List Char → Except Error (String × Cursor)
  | [] => .error .unclosedQuote
  | '\r' :: '\n' :: rest => doubleFrom (f.addBreak ['\n']) (p.nextLine 2) rest
  | '\\' :: '\r' :: '\n' :: rest => doubleFrom f.escapeBreak ((p.along 1).nextLine 2) rest
  | '\\' :: 'x' :: a :: b :: rest =>
    match charOfHex? [a, b] with
    | some c => doubleFrom (f.addChar c) (p.along 4) rest
    | none => .error .badEscape
  | '\\' :: 'u' :: a :: b :: c :: d :: rest =>
    match charOfHex? [a, b, c, d] with
    | some c => doubleFrom (f.addChar c) (p.along 6) rest
    | none => .error .badEscape
  | '\\' :: 'U' :: a :: b :: c :: d :: e :: g :: h :: i :: rest =>
    match charOfHex? [a, b, c, d, e, g, h, i] with
    | some c => doubleFrom (f.addChar c) (p.along 10) rest
    | none => .error .badEscape
  | '\\' :: c :: rest =>
    if isBreak c then doubleFrom f.escapeBreak ((p.along 1).nextLine 1) rest
    else match escapedChar? c with
      | some d => doubleFrom (f.addChar d) (p.along 2) rest
      | none => .error .badEscape
  | c :: rest =>
    if isBreak c then doubleFrom (f.addBreak (breakText c)) (p.nextLine 1) rest
    else if isSpaceOrTab c then doubleFrom (f.addBlank c) (p.along 1) rest
    else if c = '"' then .ok (f.settle.result, ⟨rest, p.along 1⟩)
    else if c = '\\' then .error .badEscape
    else if p.column = 0 && documentMarkHere (c :: rest) then .error .documentMarkInQuote
    else doubleFrom (f.addChar c) (p.along 1) rest

/-- The scalar whose opening quote stands at the cursor. -/
def quotedScalar (double : Bool) (c : Cursor) : Except Error (String × Cursor) :=
  let c := c.drop 1
  if double then doubleFrom .empty c.place c.rest else singleFrom .empty c.place c.rest

end RepoConventions.Yaml
