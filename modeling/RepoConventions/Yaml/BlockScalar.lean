import RepoConventions.Yaml.Cursor
import RepoConventions.Yaml.Error

/-!
# Block scalars

A header `|` or `>` with an indentation digit and a chomping sign, then the lines that are indented as far as
the first of them. `>` folds lines that neither begin with a blank nor follow one that does.
-/

namespace RepoConventions.Yaml

/-- What happens to the breaks at the end. -/
inductive Chomping
  | strip | clip | keep
  deriving DecidableEq, Repr

structure BlockHeader where
  chomping : Chomping
  /-- The indentation digit, zero when there is none. -/
  step : Nat

private def chompingSign? : List Char → Option Chomping
  | '+' :: _ => some .keep
  | '-' :: _ => some .strip
  | _ => none

private def stepDigit? (c : Cursor) : Except Error (Nat × Cursor) :=
  match c.rest with
  | d :: _ =>
    if d = '0' then .error .badBlockHeader
    else if '1' ≤ d && d ≤ '9' then .ok (d.toNat - 48, c.drop 1)
    else .ok (0, c)
  | [] => .ok (0, c)

/-- The signs after `|` or `>`, in either order. -/
def blockHeader (c : Cursor) : Except Error (BlockHeader × Cursor) :=
  match chompingSign? c.rest with
  | some chomping => do
    let (step, c) ← stepDigit? (c.drop 1)
    return (⟨chomping, step⟩, c)
  | none => do
    let (step, c) ← stepDigit? c
    match (if step = 0 then none else chompingSign? c.rest) with
    | some chomping => return (⟨chomping, step⟩, c.drop 1)
    | none => return (⟨.clip, step⟩, c)

/-- Breaks that precede a line, the widest indentation seen among them, and the line. -/
structure Blanks where
  breaks : List Char
  widest : Nat
  next : Cursor

/-- Passes indentation up to `indent` (any, when it is zero) and empty lines. -/
def passBlanks (indent : Nat) (breaks : List Char) (widest : Nat) (p : Place) :
    List Char → Except Error Blanks
  | [] => .ok ⟨breaks, max widest p.column, ⟨[], p⟩⟩
  | '\r' :: '\n' :: rest => passBlanks indent (breaks ++ ['\n']) (max widest p.column) (p.nextLine 2) rest
  | c :: rest =>
    let within := indent = 0 || p.column < indent
    if within && c = ' ' then passBlanks indent breaks widest (p.along 1) rest
    else if within && c = '\t' then .error .misplacedTab
    else if isBreak c then
      passBlanks indent (breaks ++ breakText c) (max widest p.column) (p.nextLine 1) rest
    else .ok ⟨breaks, max widest p.column, ⟨c :: rest, p⟩⟩

/-- The lines of a block scalar read so far. -/
structure BlockText where
  text : List Char
  lastBreak : List Char
  breaks : List Char
  /-- Whether the last line began with a blank. -/
  blankLine : Bool

/-- Adds the breaks before a line: a folded one is a space, or nothing beside further breaks. -/
def BlockText.join (b : BlockText) (folded blank : Bool) : List Char :=
  if folded && b.lastBreak = ['\n'] && !b.blankLine && !blank then
    b.text ++ (if b.breaks.isEmpty then [' '] else b.breaks)
  else b.text ++ b.lastBreak ++ b.breaks

private def breakHere (cs : List Char) : List Char :=
  match cs with
  | '\r' :: '\n' :: _ => ['\n']
  | c :: _ => if isBreak c then breakText c else []
  | [] => []

/-- Reads lines at column `indent`; every one takes at least a character, so the fuel is what is left. -/
def blockLines (folded : Bool) (indent : Nat) : Nat → BlockText → Cursor → Except Error (BlockText × Cursor)
  | 0, b, c => .ok (b, c)
  | fuel + 1, b, c =>
    match c.rest with
    | [] => .ok (b, c)
    | first :: _ =>
      if c.place.column ≠ indent then .ok (b, c)
      else do
        let line := c.rest.takeWhile fun d => !isBreak d
        let after := c.drop line.length
        let blanks ← passBlanks indent [] 0 after.dropBreak.place after.dropBreak.rest
        let blank := isSpaceOrTab first
        blockLines folded indent fuel
          ⟨b.join folded blank ++ line, breakHere after.rest, blanks.breaks, blank⟩ blanks.next

/-- The scalar whose `|` or `>` stands at the cursor, inside a block indented by `indent`. -/
def blockScalar (folded : Bool) (indent : Int) (c : Cursor) : Except Error (String × Cursor) := do
  let (header, c) ← blockHeader (c.drop 1)
  let c := c.dropBlanksAndComment
  if !(c.rest.head?.map isBreak).getD true then throw .badBlockHeader
  let c := c.dropBreak
  let fixed := if header.step = 0 then 0 else ((max indent 0) + header.step).toNat
  let blanks ← passBlanks fixed [] 0 c.place c.rest
  let width := if fixed = 0 then max (max blanks.widest (indent + 1).toNat) 1 else fixed
  let (b, c) ← blockLines folded width (blanks.next.rest.length + 1) ⟨[], [], blanks.breaks, false⟩ blanks.next
  let ending := match header.chomping with
    | .strip => []
    | .clip => b.lastBreak
    | .keep => b.lastBreak ++ b.breaks
  return (.ofList (b.text ++ ending), c)

end RepoConventions.Yaml
