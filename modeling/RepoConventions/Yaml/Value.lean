import RepoConventions.Decimal.Shortest

/-!
# Values

What the scalars and collections of a YAML tree are. A mapping keeps its entries in order; two mappings are equal
when they have equal entries in any order.
-/

namespace RepoConventions.Yaml

inductive Number
  | int (n : Int)
  | float (x : Decimal.Binary64)
  deriving DecidableEq, Repr

namespace Number

def same : Number → Number → Bool
  | int m, int n => m = n
  | float x, float y => x.same y
  | _, _ => false

/-- The canonical text of a number. -/
def text : Number → String
  | int n => .ofList (if n < 0 then '-' :: Decimal.digitsText n.natAbs else Decimal.digitsText n.natAbs)
  | float .nan => ".nan"
  | float (.infinite negative) => if negative then "-.inf" else ".inf"
  | float x => (x.finiteText? ⟨false⟩).getD ""

end Number

inductive Value
  | null
  | bool (b : Bool)
  | number (n : Number)
  | string (s : String)
  | list (items : List Value)
  | mapping (entries : List (Value × Value))
  | tagged (tag : String) (value : Value)

namespace Value

mutual
def same : Value → Value → Bool
  | .null, .null => true
  | .bool a, .bool b => a = b
  | .number m, .number n => m.same n
  | .string s, .string t => s = t
  | .list l, .list k => sameItems l k
  | .mapping l, .mapping k => l.length = k.length && sameEntries l k
  | .tagged s v, .tagged t w => s = t && same v w
  | _, _ => false

def sameItems : List Value → List Value → Bool
  | [], [] => true
  | v :: l, w :: k => same v w && sameItems l k
  | _, _ => false

/-- Whether every entry of the first list is in the second. -/
def sameEntries : List (Value × Value) → List (Value × Value) → Bool
  | [], _ => true
  | (key, value) :: l, k => k.any (fun e => same key e.1 && same value e.2) && sameEntries l k
end

/-- The word for the kind of a value. -/
def kindName : Value → String
  | .null => "null"
  | .bool _ => "boolean"
  | .number _ => "number"
  | .string _ => "string"
  | .list _ => "list"
  | .mapping _ => "mapping"
  | .tagged .. => "tagged value"

def boolText (b : Bool) : String := if b then "true" else "false"

/-- The text of a scalar that is not null, below any tags. -/
def scalarText? : Value → Option String
  | .string s => some s
  | .bool b => some (boolText b)
  | .number n => some n.text
  | .tagged _ v => scalarText? v
  | .null | .list _ | .mapping _ => none

/-- The entries of a mapping, below any tags. -/
def entries? : Value → Option (List (Value × Value))
  | .mapping entries => some entries
  | .tagged _ v => entries? v
  | _ => none

/-- Whether a value is null below any tags. -/
def isNull : Value → Bool
  | .null => true
  | .tagged _ v => isNull v
  | _ => false

def isMapping (v : Value) : Bool := v.entries?.isSome

/-- The value of the entry whose key is that string. -/
def field? (v : Value) (name : String) : Option Value := do
  let entries ← v.entries?
  (entries.find? fun e => same (.string name) e.1).map (·.2)

/-- Puts an entry at the end, or its value into the entry that has the key. -/
def insertEntry (entries : List (Value × Value)) (key value : Value) : List (Value × Value) :=
  match entries with
  | [] => [(key, value)]
  | (k, v) :: rest => if same k key then (k, value) :: rest else (k, v) :: insertEntry rest key value

end Value

end RepoConventions.Yaml
