import Mathlib.Logic.Basic
import RepoConventions.Decimal.Shortest
import RepoConventions.Text.Ascii

/-!
# Digits of numbers

Only zero begins with the digit zero, and the shortest decimal of a positive double is not zero.
-/

namespace RepoConventions.Decimal

open Text (isDigit)

theorem isDigit_of_mem_digitsText {n : Nat} {c : Char} (h : c ∈ digitsText n) : isDigit c = true := by
  have hdigit : c.isDigit = true := Nat.isDigit_of_mem_toDigits (by decide) (by decide) h
  simpa [Char.isDigit, isDigit, Char.le_def, Bool.and_comm] using hdigit

theorem digitsText_ne_nil (n : Nat) : digitsText n ≠ [] := Nat.toDigits_ne_nil

theorem head?_digitsText {n : Nat} (h : n ≠ 0) : (digitsText n).head? ≠ some '0' := by
  induction n using Nat.strongRecOn with
  | ind n ih =>
    by_cases hlt : n < 10
    · rw [digitsText, Nat.toDigits_of_lt_base hlt]
      intro hhead
      have hchar : n.digitChar = '0' := Option.some.inj hhead
      have hzero := congrArg Char.toNat hchar
      rw [Nat.toNat_digitChar_of_lt_ten hlt] at hzero
      exact h (Nat.add_left_cancel hzero)
    · have hdiv : n / 10 ≠ 0 := by omega
      have happend := Nat.toDigits_append_toDigits (b := 10) (n := n / 10) (d := n % 10) (by decide) (by omega) (by omega)
      rw [Nat.div_add_mod] at happend
      obtain ⟨d, ds, hds⟩ := List.exists_cons_of_ne_nil (digitsText_ne_nil (n / 10))
      have hhead := ih (n / 10) (by omega) hdiv
      rw [digitsText] at hds
      rw [digitsText, hds] at hhead
      rw [digitsText, ← happend, hds]
      exact hhead

namespace Binary64

theorem onGrid_pos {q : Nat} (hq : 0 < q) (e p : Int) : 0 < (onGrid q e p).1 := by
  have hpow (b : Nat) (hb : 0 < b) (n : Nat) : 0 < Nat.pow b n := Nat.pow_pos hb
  refine Nat.mul_pos (Nat.mul_pos hq ?_) ?_
  · split
    · exact hpow 2 (by decide) _
    · decide
  · split
    · exact hpow 10 (by decide) _
    · decide

/-- A point of a grid that reads back as a positive number is not zero: it is above the lower end of the interval. -/
theorem digits_ne_zero_of_nearestOnGrid? {m : Nat} {e p : Int} {s : Scaled} (hm : m ≠ 0)
    (h : nearestOnGrid? m e p = some s) : s.digits ≠ 0 := by
  have hlow : 0 < (onGrid (quarters m e).2.1 e p).1 := by
    refine onGrid_pos ?_ e p
    rw [quarters]
    dsimp only
    split <;> omega
  unfold nearestOnGrid? at h
  dsimp only at h
  generalize (onGrid (quarters m e).2.1 e p).1 = low at h hlow
  generalize (onGrid (quarters m e).2.2 e p).1 = high at h
  generalize (onGrid (quarters m e).1 e p).2 = den at h
  have hinside (n : Nat) (h : (if m % 2 = 0 then decide (low ≤ n * den) && decide (n * den ≤ high)
      else decide (low < n * den) && decide (n * den < high)) = true) : n ≠ 0 := by
    rintro rfl
    rw [Nat.zero_mul] at h
    split at h
    · simp only [Bool.and_eq_true, decide_eq_true_eq] at h
      omega
    · simp at h
  rcases ite_eq_iff.mp h with ⟨hnearest, hs⟩ | ⟨-, h⟩
  · cases hs
    exact hinside _ hnearest
  · rcases ite_eq_iff.mp h with ⟨hother, hs⟩ | ⟨-, hs⟩
    · cases hs
      exact hinside _ hother
    · cases hs

theorem digits_stripZeros_ne_zero (fuel : Nat) {s : Scaled} (h : s.digits ≠ 0) : (stripZeros fuel s).digits ≠ 0 := by
  induction fuel generalizing s with
  | zero => exact h
  | succ fuel ih =>
    rw [stripZeros]
    split
    · next hzero =>
      simp only [Bool.and_eq_true, decide_eq_true_eq] at hzero
      exact ih (by dsimp only; omega)
    · exact h

theorem digits_shortest_ne_zero {m : Nat} (hm : m ≠ 0) (e : Int) : (shortest m e).digits ≠ 0 := by
  apply digits_stripZeros_ne_zero
  cases hfind : (((List.range 20).map fun (i : Nat) => firstPlace m e + 1 - i).findSome? (nearestOnGrid? m e)) with
  | none => simpa [hfind] using hm
  | some s =>
    obtain ⟨p, -, hp⟩ := List.exists_of_findSome?_eq_some hfind
    simpa [hfind] using digits_ne_zero_of_nearestOnGrid? hm hp

end Binary64

end RepoConventions.Decimal
