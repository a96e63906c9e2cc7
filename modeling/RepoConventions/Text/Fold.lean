import RepoConventions.Text.Ascii
import RepoConventions.Text.CaseRuns

/-!
# Simple case folding

Two characters are the same but for case when they have one folding. `orbit` lists every code point with a
given folding.
-/

namespace RepoConventions.Text

def foldCode (n : Nat) : Nat :=
  if n < 128 then (if 65 ≤ n && n ≤ 90 then n + 32 else n) else mapCase foldRuns n

def sameFold (a b : Char) : Bool := foldCode a.toNat = foldCode b.toNat

theorem sameFold_self (c : Char) : sameFold c c := by simp [sameFold]

/-- All code points with the folding of `n`. -/
def orbit (n : Nat) : List Nat :=
  let f := foldCode n
  let capital := if 97 ≤ f && f ≤ 122 then [f - 32] else []
  f :: capital ++ foldRuns.filterMap fun r =>
    let m := ((f : Int) - r.shift).toNat
    if r.has m then some m else none

end RepoConventions.Text
