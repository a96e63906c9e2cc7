/-!
# Letters of ASCII

Comparison of words whose case does not count, where only the letters `A` to `Z` have a case.
-/

namespace RepoConventions.Text

def lowerAscii (c : Char) : Char := if 'A' ≤ c && c ≤ 'Z' then Char.ofNat (c.toNat + 32) else c

def eqIgnoreCase (s t : String) : Bool := s.toList.map lowerAscii == t.toList.map lowerAscii

theorem eqIgnoreCase_self (s : String) : eqIgnoreCase s s := by simp [eqIgnoreCase]

def isDigit (c : Char) : Bool := '0' ≤ c && c ≤ '9'

/-- The value of a digit in bases up to sixteen. -/
def digitValue? (c : Char) : Option Nat :=
  if '0' ≤ c && c ≤ '9' then some (c.toNat - 48)
  else if 'a' ≤ c && c ≤ 'f' then some (c.toNat - 87)
  else if 'A' ≤ c && c ≤ 'F' then some (c.toNat - 55)
  else none

/-- The number a non-empty word of digits denotes in a base up to sixteen. -/
def natOfDigits? (base : Nat) (cs : List Char) : Option Nat :=
  match cs with
  | [] => none
  | _ => cs.foldlM (fun n c => do
      let d ← digitValue? c
      if d < base then some (n * base + d) else none) 0

end RepoConventions.Text
