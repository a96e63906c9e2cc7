import RepoConventions.Text.Ascii
import RepoConventions.Text.Cut

/-!
# Sets of code points

A set is a list of inclusive ranges, written as hexadecimal numbers such as `41-5A 61-7A AA`.
-/

namespace RepoConventions.Text

structure CodePoints where
  ranges : List (Nat × Nat)
  deriving DecidableEq, Repr

namespace CodePoints

def has (s : CodePoints) (n : Nat) : Bool := s.ranges.any fun r => r.1 ≤ n && n ≤ r.2

def union (s t : CodePoints) : CodePoints := ⟨s.ranges ++ t.ranges⟩

private def rangeOfWord? (w : List Char) : Option (Nat × Nat) :=
  match cutAt? ['-'] w with
  | some (lo, hi) => do return (← natOfDigits? 16 lo, ← natOfDigits? 16 hi)
  | none => (natOfDigits? 16 w).map fun n => (n, n)

/-- Reads lines of the written form; a word that is no range adds nothing. -/
def ofLines (lines : List String) : CodePoints :=
  ⟨lines.flatMap fun s => (splitOn ' ' s.toList).filterMap rangeOfWord?⟩

end CodePoints

end RepoConventions.Text
