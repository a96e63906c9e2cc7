import RepoConventions.Decimal.Binary64

/-!
# Shortest decimals

The fewest digits that read back as a given double, and of those the nearest to it. A number is written
positionally while its scientific exponent is from -5 to 15, and always with a fraction.
-/

namespace RepoConventions.Decimal

/-- `digits · 10 ^ exponent`. -/
structure Scaled where
  digits : Nat
  exponent : Int
  deriving DecidableEq, Repr

namespace Binary64

/-- Four times the mantissa and the same for the ends of the interval that rounds to it. -/
def quarters (m : Nat) (e : Int) : Nat × Nat × Nat :=
  (4 * m, if m = mantissaLimit / 2 && e > -1074 then 4 * m - 1 else 4 * m - 2, 4 * m + 2)

/-- `q · 2 ^ (e - 2)` on the grid of `10 ^ p`, as a fraction. -/
def onGrid (q : Nat) (e p : Int) : Nat × Nat :=
  let num := q * (if e ≥ 2 then Nat.pow 2 (e - 2).toNat else 1) * (if p < 0 then Nat.pow 10 (-p).toNat else 1)
  let den := (if e < 2 then Nat.pow 2 (2 - e).toNat else 1) * (if p ≥ 0 then Nat.pow 10 p.toNat else 1)
  (num, den)

/-- The point of the grid of `10 ^ p` that reads back as `m · 2 ^ e` and is nearest to it, if one does. -/
def nearestOnGrid? (m : Nat) (e p : Int) : Option Scaled :=
  let (value, low, high) := quarters m e
  let (v, den) := onGrid value e p
  let (l, _) := onGrid low e p
  let (h, _) := onGrid high e p
  let inside (n : Nat) : Bool :=
    if m % 2 = 0 then l ≤ n * den && n * den ≤ h else l < n * den && n * den < h
  let floor := v / den
  let nearest := divRound v den
  let other := if nearest = floor then floor + 1 else floor
  if inside nearest then some ⟨nearest, p⟩
  else if inside other then some ⟨other, p⟩
  else none

/-- The place of the first digit: `10 ^ place ≤ m · 2 ^ e < 10 ^ (place + 1)`, or one more than that. -/
def firstPlace (m : Nat) (e : Int) : Int :=
  let (n, d) := onGrid (4 * m) e 0
  if n ≥ d then ((Nat.toDigits 10 (n / d)).length : Int) - 1
  else -((Nat.toDigits 10 (d / n)).length : Int) + 1

/-- Removes trailing zeros; the fuel is the number of digits. -/
def stripZeros : Nat → Scaled → Scaled
  | 0, s => s
  | fuel + 1, s =>
    if s.digits ≠ 0 && s.digits % 10 = 0 then stripZeros fuel ⟨s.digits / 10, s.exponent + 1⟩ else s

/-- The shortest decimal of a positive `m · 2 ^ e`: the coarsest grid with a hit gives it. -/
def shortest (m : Nat) (e : Int) : Scaled :=
  let place := firstPlace m e
  let grids := (List.range 20).map fun (i : Nat) => place + 1 - i
  stripZeros 20 ((grids.findSome? (nearestOnGrid? m e)).getD ⟨m, e⟩)

end Binary64

/-- How a number with an exponent is written. -/
structure NumberStyle where
  exponentPlus : Bool

def digitsText (n : Nat) : List Char := Nat.toDigits 10 n

def exponentText (style : NumberStyle) (e : Int) : List Char :=
  'e' :: (if e < 0 then '-' :: digitsText (-e).toNat
    else (if style.exponentPlus then ['+'] else []) ++ digitsText e.toNat)

/-- Writes `digits · 10 ^ exponent`. -/
def Scaled.text (style : NumberStyle) (s : Scaled) : List Char :=
  let ds := digitsText s.digits
  let point : Int := ds.length + s.exponent
  if 0 ≤ s.exponent && point ≤ 16 then ds ++ List.replicate s.exponent.toNat '0' ++ ['.', '0']
  else if 0 < point && point ≤ 16 then ds.take point.toNat ++ '.' :: ds.drop point.toNat
  else if -5 < point && point ≤ 0 then '0' :: '.' :: List.replicate (-point).toNat '0' ++ ds
  else match ds with
    | [d] => d :: exponentText style (point - 1)
    | d :: rest => d :: '.' :: rest ++ exponentText style (point - 1)
    | [] => []

/-- Writes a finite number, and `none` for the others. -/
def Binary64.finiteText? (style : NumberStyle) : Binary64 → Option String
  | .finite negative m e =>
    let body := if m = 0 then ['0', '.', '0'] else (shortest m e).text style
    some (.ofList (if negative then '-' :: body else body))
  | _ => none

end RepoConventions.Decimal
