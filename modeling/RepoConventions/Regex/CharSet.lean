import RepoConventions.Text.BinaryProperty
import RepoConventions.Text.Category
import RepoConventions.Text.Fold

/-!
# Character sets

What the brackets and classes of an expression stand for. A set is closed under case before it is negated, so that a
negated set never holds a character whose other case it excludes.
-/

namespace RepoConventions.Regex

open Text (CodePoints)

/-- Which characters differ in case only. -/
inductive Folding
  | exact
  | ascii
  | simple
  deriving DecidableEq, Repr

/-- The code points that are the same as one but for case. -/
def Folding.variants (f : Folding) (n : Nat) : List Nat :=
  match f with
  | exact => [n]
  | ascii => if 65 ≤ n && n ≤ 90 then [n, n + 32] else if 97 ≤ n && n ≤ 122 then [n, n - 32] else [n]
  | simple => Text.orbit n

inductive SetOp
  | intersection
  | difference
  | symmetricDifference
  deriving DecidableEq, Repr

def SetOp.apply : SetOp → Bool → Bool → Bool
  | intersection, a, b => a && b
  | difference, a, b => a && !b
  | symmetricDifference, a, b => a != b

inductive CharSet
  | empty
  | range (lo hi : Nat)
  | named (points : CodePoints) (folds negated : Bool)
  | union (s t : CharSet)
  | bracketed (negated : Bool) (s : CharSet)
  | combined (op : SetOp) (s t : CharSet)
  deriving DecidableEq, Repr

namespace CharSet

def has (f : Folding) : CharSet → Nat → Bool
  | empty, _ => false
  | range lo hi, n => lo ≤ n && n ≤ hi
  | named points folds negated, n => (if folds then (f.variants n).any points.has else points.has n) != negated
  | union s t, n => s.has f n || t.has f n
  | bracketed negated s, n => (f.variants n).any (s.has f) != negated
  | combined op s t, n => op.apply ((f.variants n).any (s.has f)) ((f.variants n).any (t.has f))

def ofItems : List CharSet → CharSet
  | [] => empty
  | [s] => s
  | s :: rest => union s (ofItems rest)

/-- How deep brackets, unions and operators nest; the parts of one union stand side by side. -/
def nesting (inUnion : Bool) : CharSet → Nat
  | empty | range .. | named .. => 0
  | union s t => max (s.nesting false) (t.nesting true) + if inUnion then 0 else 1
  | bracketed _ s => s.nesting false + 1
  | combined _ s t => max (s.nesting false) (t.nesting false) + 1

end CharSet

/-- The categories whose short name begins with a letter. -/
def categoriesOf (initial : Char) : CodePoints :=
  ⟨(Text.categories.filter fun c => c.1.any fun name => name.length = 2 && name.toList.head? = some initial).flatMap
    (·.2.ranges)⟩

def categorySet (name : String) : CodePoints :=
  ⟨(Text.categories.filter (·.1.contains name)).flatMap (·.2.ranges)⟩

def digitSet : CodePoints := categorySet "Nd"

def blankSet : CodePoints :=
  ⟨[(9, 13), (0x20, 0x20), (0x85, 0x85), (0xA0, 0xA0), (0x1680, 0x1680), (0x2000, 0x200A), (0x2028, 0x2029),
    (0x202F, 0x202F), (0x205F, 0x205F), (0x3000, 0x3000)]⟩

/-- Letters, marks, decimal digits, connectors and the two joiners. -/
def wordSet : CodePoints :=
  ⟨Text.alphabeticSet.ranges ++ (categoriesOf 'M').ranges ++ digitSet.ranges ++ (categorySet "Pc").ranges ++
    [(0x200C, 0x200D)]⟩

def asciiDigits : CodePoints := ⟨[(48, 57)]⟩

def asciiBlanks : CodePoints := ⟨[(9, 13), (32, 32)]⟩

def asciiWord : CodePoints := ⟨[(48, 57), (65, 90), (95, 95), (97, 122)]⟩

def isWordChar (unicode : Bool) (c : Char) : Bool := (if unicode then wordSet else asciiWord).has c.toNat

/-- The classes of ASCII characters that have names. -/
def asciiClass? (name : String) : Option CodePoints :=
  match name with
  | "alnum" => some ⟨[(48, 57), (65, 90), (97, 122)]⟩
  | "alpha" => some ⟨[(65, 90), (97, 122)]⟩
  | "ascii" => some ⟨[(0, 127)]⟩
  | "blank" => some ⟨[(9, 9), (32, 32)]⟩
  | "cntrl" => some ⟨[(0, 31), (127, 127)]⟩
  | "digit" => some asciiDigits
  | "graph" => some ⟨[(33, 126)]⟩
  | "lower" => some ⟨[(97, 122)]⟩
  | "print" => some ⟨[(32, 126)]⟩
  | "punct" => some ⟨[(33, 47), (58, 64), (91, 96), (123, 126)]⟩
  | "space" => some asciiBlanks
  | "upper" => some ⟨[(65, 90)]⟩
  | "word" => some asciiWord
  | "xdigit" => some ⟨[(48, 57), (65, 70), (97, 102)]⟩
  | _ => none

end RepoConventions.Regex
