/-!
# Double-precision numbers

A finite number is `± mantissa · 2 ^ exponent` with a mantissa below `2 ^ 53`, and of the forms of one number
the one with the largest mantissa is kept. Decimal numbers are rounded to the nearest, a half to the even side.
-/

namespace RepoConventions.Decimal

inductive Binary64
  | nan
  | infinite (negative : Bool)
  | finite (negative : Bool) (mantissa : Nat) (exponent : Int)
  deriving DecidableEq, Repr

namespace Binary64

/-- The least number that is no mantissa, `2 ^ 53`. -/
def mantissaLimit : Nat := 0x20000000000000

/-- Numeric equality, in which the two zeros are one number and a NaN equals itself. -/
def same : Binary64 → Binary64 → Bool
  | finite n m e, finite n' m' e' => (m = 0 && m' = 0) || (n = n' && m = m' && e = e')
  | x, y => x = y

def isFinite : Binary64 → Bool
  | finite .. => true
  | _ => false

/-- The quotient of two numbers, rounded to the nearest, a half to the even side. -/
def divRound (num den : Nat) : Nat :=
  let q := num / den
  let twice := 2 * (num % den)
  if twice > den || (twice = den && q % 2 = 1) then q + 1 else q

/-- `num / den` in units of `2 ^ e`, as a fraction. -/
def inUnits (num den : Nat) (e : Int) : Nat × Nat :=
  if e ≥ 0 then (num, den * Nat.pow 2 e.toNat) else (num * Nat.pow 2 (-e).toNat, den)

/-- The double nearest to the positive fraction `num / den`. -/
def ofFraction (negative : Bool) (num den : Nat) : Binary64 :=
  let k : Int := (num.log2 : Int) - den.log2
  let (n, d) := inUnits num den (k - 53)
  let e := max (if n / d < mantissaLimit then k - 53 else k - 52) (-1074)
  let (n, d) := inUnits num den e
  let m := divRound n d
  let (m, e) := if m = mantissaLimit then (mantissaLimit / 2, e + 1) else (m, e)
  if e > 971 then infinite negative else finite negative m e

/-- The double nearest to `digits · 10 ^ exponent`. Beyond 400 places either way no power is formed. -/
def ofDecimal (negative : Bool) (digits : Nat) (exponent : Int) : Binary64 :=
  let places := exponent + (Nat.toDigits 10 digits).length
  if digits = 0 || places < -400 then finite negative 0 (-1074)
  else if places > 400 then infinite negative
  else if exponent ≥ 0 then ofFraction negative (digits * Nat.pow 10 exponent.toNat) 1
  else ofFraction negative digits (Nat.pow 10 (-exponent).toNat)

end Binary64

end RepoConventions.Decimal
