import RepoConventions.Text.Ascii
import RepoConventions.Yaml.Error
import RepoConventions.Yaml.Node
import RepoConventions.Yaml.Value

/-!
# What scalars mean

A plain scalar that spells null, a boolean, an integer or a finite decimal number is that value; any other
scalar is its text. A tag of the core schema demands its kind of value.
-/

namespace RepoConventions.Yaml

namespace Resolution

open Text (isDigit natOfDigits?)

def isNull (s : String) : Bool := s = "null" || s = "Null" || s = "NULL" || s = "~"

def bool? (s : String) : Option Bool :=
  if s = "true" || s = "True" || s = "TRUE" then some true
  else if s = "false" || s = "False" || s = "FALSE" then some false
  else none

def isSign (c : Char) : Bool := c = '+' || c = '-'

/-- Digits after a superfluous zero: a word that is no number. -/
def isZeroLed (cs : List Char) : Bool :=
  let digits := match cs with
    | c :: rest => if isSign c then rest else cs
    | [] => []
  match digits with
  | '0' :: d :: rest => (d :: rest).all isDigit
  | _ => false

/-- The magnitude of an integer: digits after `0x`, `0o` or `0b`, or decimal digits. -/
def magnitude? (cs : List Char) : Option Nat :=
  match cs with
  | '0' :: 'x' :: rest => natOfDigits? 16 rest
  | '0' :: 'o' :: rest => natOfDigits? 8 rest
  | '0' :: 'b' :: rest => natOfDigits? 2 rest
  | _ => natOfDigits? 10 cs

def integer? (cs : List Char) : Option Int :=
  if isZeroLed cs then none
  else match cs with
    | '-' :: rest => (magnitude? rest).map fun n => -(n : Int)
    | '+' :: rest => (magnitude? rest).map Int.ofNat
    | _ => (magnitude? cs).map Int.ofNat

/-- The exponent of a decimal, zero when none is written. -/
def exponent? (cs : List Char) : Option Int :=
  match cs with
  | [] => some 0
  | e :: rest =>
    if e = 'e' || e = 'E' then
      match rest with
      | '-' :: ds => (natOfDigits? 10 ds).map fun n => -(n : Int)
      | '+' :: ds => (natOfDigits? 10 ds).map Int.ofNat
      | ds => (natOfDigits? 10 ds).map Int.ofNat
    else none

/-- Digits with an optional point and exponent. -/
def decimal? (negative : Bool) (cs : List Char) : Option Decimal.Binary64 := do
  let whole := cs.takeWhile isDigit
  let rest := cs.drop whole.length
  let (fraction, rest) := match rest with
    | '.' :: rest => (rest.takeWhile isDigit, rest.dropWhile isDigit)
    | _ => ([], rest)
  let digits ← natOfDigits? 10 (whole ++ fraction)
  let e ← exponent? rest
  some (.ofDecimal negative digits (e - fraction.length))

def float? (s : String) : Option Decimal.Binary64 :=
  if s = ".inf" || s = ".Inf" || s = ".INF" || s = "+.inf" || s = "+.Inf" || s = "+.INF" then
    some (.infinite false)
  else if s = "-.inf" || s = "-.Inf" || s = "-.INF" then some (.infinite true)
  else if s = ".nan" || s = ".NaN" || s = ".NAN" then some .nan
  else
    let x := match s.toList with
      | '-' :: rest => decimal? true rest
      | '+' :: rest => decimal? false rest
      | cs => decimal? false cs
    x.filter (·.isFinite)

/-- An integer as a value. Sixty-four bits are kept, of 128 bits none, and beyond that it is no integer. -/
def integerValue? (n : Int) : Option (Except Error Value) :=
  if -0x8000000000000000 ≤ n && n < 0x10000000000000000 then some (.ok (.number (.int n)))
  else if -0x80000000000000000000000000000000 ≤ n && n < 0x100000000000000000000000000000000 then
    some (.error .badScalar)
  else none

/-- A plain scalar without a tag. -/
def plain (s : String) : Except Error Value :=
  if s.isEmpty || isNull s then .ok .null
  else match bool? s with
    | some b => .ok (.bool b)
    | none =>
      match (integer? s.toList).bind integerValue? with
      | some r => r
      | none =>
        match (if isZeroLed s.toList then none else float? s) with
        | some x => .ok (.number (.float x))
        | none => .ok (.string s)

def untagged (isPlain : Bool) (s : String) : Except Error Value :=
  if isPlain then plain s else .ok (.string s)

private def demand (v : Option Value) : Except Error Value :=
  match v with
  | some v => .ok v
  | none => .error .badScalar

/-- A scalar with its tag. -/
def scalar (tag : Option Tag) (isPlain : Bool) (s : String) : Except Error Value :=
  match tag with
  | none => untagged isPlain s
  | some (.custom name) => (untagged isPlain s).map (.tagged name)
  | some .null => demand (if isNull s then some .null else none)
  | some .bool => demand ((bool? s).map .bool)
  | some .int => ((integer? s.toList).bind integerValue?).getD (.error .badScalar)
  | some .float => demand ((float? s).map fun x => .number (.float x))
  | some .other => .ok (.string s)

end Resolution

end RepoConventions.Yaml
