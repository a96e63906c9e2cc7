import RepoConventions.Regex.CharSet

/-!
# Regular expressions

An expression takes positions of a text to the positions where its matches from there end. A row holds one mark for
every position: before each character, and at the end.
-/

namespace RepoConventions

namespace Regex

inductive Look
  | textStart
  | textEnd
  | lineStart (crlf : Bool)
  | lineEnd (crlf : Bool)
  | wordBoundary (unicode negated : Bool)
  | wordStart (unicode half : Bool)
  | wordEnd (unicode half : Bool)
  deriving DecidableEq, Repr

/-- Whether an assertion holds between two characters, either of which may be missing at an end of the text. -/
def Look.holds (l : Look) (before after : Option Char) : Bool :=
  match l with
  | textStart => before.isNone
  | textEnd => after.isNone
  | lineStart false => before.isNone || before = some '\n'
  | lineStart true => before.isNone || before = some '\n' || (before = some '\r' && after ≠ some '\n')
  | lineEnd false => after.isNone || after = some '\n'
  | lineEnd true => after.isNone || after = some '\r' || (after = some '\n' && before ≠ some '\r')
  | wordBoundary u negated => (before.any (isWordChar u) != after.any (isWordChar u)) != negated
  | wordStart u half => !before.any (isWordChar u) && (half || after.any (isWordChar u))
  | wordEnd u half => (half || before.any (isWordChar u)) && !after.any (isWordChar u)

/-- Which line ends a dot does not match. -/
inductive Dot
  | anything
  | notLineFeed
  | notLineEnd
  deriving DecidableEq, Repr

def Dot.has : Dot → Char → Bool
  | anything, _ => true
  | notLineFeed, c => c ≠ '\n'
  | notLineEnd, c => c ≠ '\n' && c ≠ '\r'

end Regex

inductive Regex
  | empty
  | literal (f : Regex.Folding) (c : Char)
  | dot (d : Regex.Dot)
  | set (f : Regex.Folding) (s : Regex.CharSet)
  | look (l : Regex.Look)
  | group (r : Regex)
  | seq (r s : Regex)
  | alt (r s : Regex)
  | repeated (r : Regex) (least : Nat) (most : Option Nat)
  deriving DecidableEq, Repr

namespace Regex

abbrev Row := List Bool

def Row.union (a b : Row) : Row := List.zipWith or a b

/-- Moves the marks before characters of a kind to the positions after them. -/
def Row.step (p : Char → Bool) (s : List Char) (row : Row) : Row :=
  false :: List.zipWith (fun c here => here && p c) s row

/-- The characters around each position. -/
def surroundings (before : Option Char) : List Char → List (Option Char × Option Char)
  | [] => [(before, none)]
  | c :: rest => (before, some c) :: surroundings (some c) rest

def Row.look (l : Look) (s : List Char) (row : Row) : Row :=
  List.zipWith (fun here around => here && l.holds around.1 around.2) row (surroundings none s)

/-- Applies a step a number of times; a row that it does not change stays. -/
def times (f : Row → Row) : Nat → Row → Row
  | 0, row => row
  | n + 1, row => if f row = row then row else times f n (f row)

/-- Adds what a step reaches, up to a number of times; a row that gains nothing stays. -/
def upTo (f : Row → Row) : Nat → Row → Row
  | 0, row => row
  | n + 1, row =>
    let next := row.union (f row)
    if next = row then row else upTo f n next

/-- The positions reached from those of a row. A row gains at most one mark a position, which bounds unlimited
repetition. -/
def reach (s : List Char) : Regex → Row → Row
  | empty, row => row
  | literal f c, row => row.step (fun d => (f.variants d.toNat).contains c.toNat) s
  | dot d, row => row.step d.has s
  | set f cs, row => row.step (fun d => cs.has f d.toNat) s
  | look l, row => row.look l s
  | group r, row => reach s r row
  | seq r t, row => reach s t (reach s r row)
  | alt r t, row => (reach s r row).union (reach s t row)
  | repeated r least most, row =>
    upTo (reach s r) (match most with
      | some m => m - least
      | none => s.length + 1) (times (reach s r) least row)

/-- Whether a text matches as a whole. -/
def matchesAll (r : Regex) (s : List Char) : Bool :=
  (reach s r (true :: s.map fun _ => false)).getLast? = some true

/-- Whether some part of a text matches. -/
def occursIn (r : Regex) (text : String) : Bool :=
  let s := text.toList
  (reach s r (true :: s.map fun _ => true)).contains true

def ofSequence : List Regex → Regex
  | [] => empty
  | [r] => r
  | r :: rest => seq r (ofSequence rest)

def ofBranches : List Regex → Regex
  | [] => empty
  | [r] => r
  | r :: rest => alt r (ofBranches rest)

/-- Where an expression stands: the parts of one sequence, or of one choice, are side by side. -/
inductive Beside
  | nothing
  | sequence
  | choice
  deriving DecidableEq, Repr

/-- How deep an expression nests. -/
def nesting (b : Beside) : Regex → Nat
  | empty | literal .. | dot _ | look _ => 0
  | set _ s => s.nesting false
  | group r => r.nesting .nothing + 1
  | seq r t => max (r.nesting .nothing) (t.nesting .sequence) + if b = .sequence then 0 else 1
  | alt r t => max (r.nesting .nothing) (t.nesting .choice) + if b = .choice then 0 else 1
  | repeated r _ _ => r.nesting .nothing + 1

end Regex

end RepoConventions
