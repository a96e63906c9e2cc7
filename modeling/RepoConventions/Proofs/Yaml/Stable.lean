import RepoConventions.Proofs.Decimal.Digits
import RepoConventions.Proofs.Yaml.Twin

/-!
# Plain scalars that are their own canonical text

The typed reading shows a boolean or number by its canonical text. That is the scalar itself for the words `true` and
`false`, for integers in decimal digits without a plus, and for the floats that are written as they are shown.
-/

namespace RepoConventions

namespace Text

theorem isDigit_iff {c : Char} : isDigit c = true ↔ 48 ≤ c.toNat ∧ c.toNat ≤ 57 := by
  rw [isDigit, Bool.and_eq_true, decide_eq_true_eq, decide_eq_true_eq]
  rfl

theorem digitChar_toNat {c : Char} (h : isDigit c = true) : Nat.digitChar (c.toNat - 48) = c := by
  obtain ⟨hlow, hhigh⟩ := isDigit_iff.mp h
  apply Char.toNat_inj.mp
  rw [Nat.toNat_digitChar_of_lt_ten (by omega)]
  omega

/-- The number before a digit and the number with it. -/
def withDigit? (base n : Nat) (c : Char) : Option Nat := do
  let d ← digitValue? c
  if d < base then some (n * base + d) else none

theorem natOfDigits?_cons (base : Nat) (c : Char) (rest : List Char) :
    natOfDigits? base (c :: rest) = (withDigit? base 0 c).bind fun n => rest.foldlM (withDigit? base) n := rfl

theorem withDigit?_ten_eq_some {n m : Nat} {c : Char} (h : withDigit? 10 n c = some m) :
    isDigit c = true ∧ m = 10 * n + (c.toNat - 48) := by
  obtain ⟨d, hd, h⟩ := Option.bind_eq_some_iff.mp h
  split at h
  · next hlt =>
    cases h
    unfold digitValue? at hd
    split at hd
    · next hdigit =>
      cases hd
      exact ⟨hdigit, by omega⟩
    · split at hd
      · next hletter =>
        simp only [Bool.and_eq_true, decide_eq_true_eq] at hletter
        have hlow : 97 ≤ c.toNat := hletter.1
        cases hd
        omega
      · split at hd
        · next hletter =>
          simp only [Bool.and_eq_true, decide_eq_true_eq] at hletter
          have hlow : 65 ≤ c.toNat := hletter.1
          cases hd
          omega
        · cases hd
  · cases h

end Text

namespace Decimal

open Text (isDigit withDigit?)

theorem eq_zero_of_digitsText {n : Nat} (h : digitsText n = ['0']) : n = 0 := by
  have hread : Nat.ofDigitChars 10 (digitsText n) 0 = n := Nat.ofDigitChars_toDigits (by decide) (by decide)
  rw [← hread, h]
  rfl

theorem digitsText_append {cs : List Char} {n m : Nat} (hn : 0 < n) (h : cs.foldlM (withDigit? 10) n = some m) :
    digitsText n ++ cs = digitsText m := by
  induction cs generalizing n with
  | nil =>
    cases h
    exact List.append_nil _
  | cons c rest ih =>
    obtain ⟨k, hk, hrest⟩ := Option.bind_eq_some_iff.mp h
    obtain ⟨hdigit, rfl⟩ := Text.withDigit?_ten_eq_some hk
    have hlt : c.toNat - 48 < 10 := by
      have hrange := Text.isDigit_iff.mp hdigit
      omega
    have hstep : digitsText n ++ [c] = digitsText (10 * n + (c.toNat - 48)) := by
      have happend := Nat.toDigits_append_toDigits (b := 10) (by decide) hn hlt
      rwa [Nat.toDigits_of_lt_base hlt, Text.digitChar_toNat hdigit] at happend
    rw [List.append_cons, hstep]
    exact ih (by omega) hrest

/-- Digits without a superfluous zero are the text of their number. -/
theorem digitsText_of_natOfDigits? {cs : List Char} {n : Nat} (h : Text.natOfDigits? 10 cs = some n)
    (hlead : ∀ rest, cs = '0' :: rest → rest = []) : digitsText n = cs := by
  cases cs with
  | nil => cases h
  | cons c rest =>
    rw [Text.natOfDigits?_cons] at h
    obtain ⟨k, hk, hrest⟩ := Option.bind_eq_some_iff.mp h
    obtain ⟨hdigit, rfl⟩ := Text.withDigit?_ten_eq_some hk
    have hrange := Text.isDigit_iff.mp hdigit
    have hfirst : digitsText (10 * 0 + (c.toNat - 48)) = [c] := by
      rw [Nat.mul_zero, Nat.zero_add, digitsText, Nat.toDigits_of_lt_base (by omega), Text.digitChar_toNat hdigit]
    by_cases hzero : c = '0'
    · subst hzero
      obtain rfl := hlead rest rfl
      cases hrest
      exact hfirst
    · have hpos : 0 < 10 * 0 + (c.toNat - 48) := by
        have hne : c.toNat ≠ 48 := fun heq => hzero (Char.toNat_inj.mp heq)
        omega
      rw [← digitsText_append hpos hrest, hfirst]
      rfl

end Decimal

namespace Yaml

namespace Resolution

open Text (isDigit natOfDigits?)
open Decimal (digitsText)

/-- Decimal digits, after a minus if they are not a zero alone. -/
def IsDecimal (cs : List Char) : Prop :=
  ∃ ds, (∀ d ∈ ds, isDigit d = true) ∧ (cs = ds ∨ cs = '-' :: ds ∧ ds ≠ ['0'])

/-- The plain scalars that the typed reading shows as they are written. -/
inductive IsStable (s : String) : Prop
  | word (h : plain s = .ok (.string s))
  | bool {b : Bool} (h : s = Value.boolText b)
  | int {n : Int} (h : plain s = .ok (.number (.int n))) (hdecimal : IsDecimal s.toList)
  | float {x : Decimal.Binary64} (h : plain s = .ok (.number (.float x))) (htext : (Number.float x).text = s)

/-! Integers -/

theorem not_superfluous_zero {cs rest : List Char} (h : isZeroLed cs = false) (hdigits : ∀ c ∈ cs, isDigit c = true)
    (hcs : cs = '0' :: rest) : rest = [] := by
  subst hcs
  cases rest with
  | nil => rfl
  | cons d rest =>
    have hled : isZeroLed ('0' :: d :: rest) = (d :: rest).all isDigit := rfl
    rw [hled, Bool.eq_false_iff] at h
    exact absurd (List.all_eq_true.mpr fun c hc => hdigits c (List.mem_cons_of_mem _ hc)) h

theorem magnitude?_of_digits {cs : List Char} (hdigits : ∀ c ∈ cs, isDigit c = true) :
    magnitude? cs = natOfDigits? 10 cs := by
  unfold magnitude?
  split
  · exact absurd (hdigits 'x' (by simp)) (by decide)
  · exact absurd (hdigits 'o' (by simp)) (by decide)
  · exact absurd (hdigits 'b' (by simp)) (by decide)
  · rfl

theorem not_isSign_of_isDigit {c : Char} (h : isDigit c = true) : isSign c = false := by
  have hrange := Text.isDigit_iff.mp h
  rw [isSign, Bool.or_eq_false_iff, decide_eq_false_iff_not, decide_eq_false_iff_not]
  constructor <;> rintro rfl <;> exact absurd hrange (by decide)

theorem isZeroLed_minus {ds : List Char} (hdigits : ∀ d ∈ ds, isDigit d = true) :
    isZeroLed ('-' :: ds) = isZeroLed ds := by
  cases ds with
  | nil => rfl
  | cons d rest =>
    have hsign : isSign d = false := not_isSign_of_isDigit (hdigits d List.mem_cons_self)
    have hminus : isSign '-' = true := by decide
    simp only [isZeroLed, hsign, hminus, if_true, Bool.false_eq_true, if_false]

/-- The canonical text of an integer. -/
def intText (n : Int) : List Char := if n < 0 then '-' :: digitsText n.natAbs else digitsText n.natAbs

theorem text_int_eq_iff {n : Int} {s : String} : (Number.int n).text = s ↔ intText n = s.toList := by
  rw [Number.text, ← String.toList_inj, String.toList_ofList]
  rfl

theorem isDecimal_intText (n : Int) : IsDecimal (intText n) := by
  refine ⟨digitsText n.natAbs, fun d hd => Decimal.isDigit_of_mem_digitsText hd, ?_⟩
  rw [intText]
  split
  · next hneg => exact .inr ⟨rfl, fun hzero => absurd (Decimal.eq_zero_of_digitsText hzero) (by omega)⟩
  · exact .inl rfl

theorem integer?_of_digits {ds : List Char} {n : Int} (hdigits : ∀ d ∈ ds, isDigit d = true)
    (h : integer? ds = some n) : isZeroLed ds = false ∧ ∃ m : Nat, natOfDigits? 10 ds = some m ∧ n = m := by
  unfold integer? at h
  split at h
  · cases h
  · next hled =>
    refine ⟨Bool.eq_false_iff.mpr hled, ?_⟩
    split at h
    · exact absurd (hdigits '-' (by simp)) (by decide)
    · exact absurd (hdigits '+' (by simp)) (by decide)
    · rw [magnitude?_of_digits hdigits] at h
      obtain ⟨m, hm, rfl⟩ := Option.map_eq_some_iff.mp h
      exact ⟨m, hm, rfl⟩

theorem integer?_minus (ds : List Char) :
    integer? ('-' :: ds) = if isZeroLed ('-' :: ds) then none else (magnitude? ds).map fun m : Nat => -(m : Int) := by
  rw [integer?]
  cases magnitude? ds <;> rfl

theorem integer?_of_minus {ds : List Char} {n : Int} (hdigits : ∀ d ∈ ds, isDigit d = true)
    (h : integer? ('-' :: ds) = some n) :
    isZeroLed ds = false ∧ ∃ m : Nat, natOfDigits? 10 ds = some m ∧ n = -m := by
  rw [integer?_minus, isZeroLed_minus hdigits, magnitude?_of_digits hdigits] at h
  split at h
  · cases h
  · next hled =>
    obtain ⟨m, hm, rfl⟩ := Option.map_eq_some_iff.mp h
    exact ⟨Bool.eq_false_iff.mpr hled, m, hm, rfl⟩

theorem intText_of_isDecimal {cs : List Char} {n : Int} (h : integer? cs = some n) (hdecimal : IsDecimal cs) :
    intText n = cs := by
  obtain ⟨ds, hdigits, rfl | ⟨rfl, hzero⟩⟩ := hdecimal
  · obtain ⟨hled, m, hm, rfl⟩ := integer?_of_digits hdigits h
    rw [intText, if_neg (by omega), Int.natAbs_natCast]
    exact Decimal.digitsText_of_natOfDigits? hm fun rest => not_superfluous_zero hled hdigits
  · obtain ⟨hled, m, hm, rfl⟩ := integer?_of_minus hdigits h
    have htext : digitsText m = ds :=
      Decimal.digitsText_of_natOfDigits? hm fun rest => not_superfluous_zero hled hdigits
    have hpos : m ≠ 0 := by
      rintro rfl
      exact hzero htext.symm
    rw [intText, if_pos (by omega), Int.natAbs_neg, Int.natAbs_natCast, htext]

/-! Scalars -/

theorem integer?_of_plain {s : String} {n : Int} (h : plain s = .ok (.number (.int n))) :
    integer? s.toList = some n := by
  have huntagged : untagged true s = .ok (.number (.int n)) := h
  rcases untagged_text_cases huntagged trivial with hstring | hspells
  · cases hstring
  · cases hspells with
    | int hn => exact hn

theorem plain_boolText (b : Bool) : plain (Value.boolText b) = .ok (.bool b) := by
  cases b <;> rfl

/-- A plain scalar is shown as it is written just when it is stable. -/
theorem scalarText_eq_iff_isStable {s : String} {v : Value} (h : plain s = .ok v) :
    v.scalarText? = some s ↔ IsStable s := by
  constructor
  · intro htext
    cases v with
    | string t =>
      cases htext
      exact .word h
    | bool b => exact .bool (Option.some.inj htext).symm
    | number n =>
      cases n with
      | int n =>
        have hcanonical := text_int_eq_iff.mp (Option.some.inj htext)
        exact .int h (hcanonical ▸ isDecimal_intText n)
      | float x => exact .float h (Option.some.inj htext)
    | null => cases htext
    | list items => cases htext
    | mapping es => cases htext
    | tagged tag u =>
      rcases plain_cases h with hnull | hv
      · cases hnull
      · cases hv
  · intro hstable
    cases hstable with
    | word hword =>
      cases h.symm.trans hword
      rfl
    | @bool b hb =>
      subst hb
      cases h.symm.trans (plain_boolText b)
      rfl
    | int hint hdecimal =>
      cases h.symm.trans hint
      have htext := text_int_eq_iff.mpr (intText_of_isDecimal (integer?_of_plain hint) hdecimal)
      exact congrArg some htext
    | float hfloat htext =>
      cases h.symm.trans hfloat
      exact congrArg some htext

end Resolution

end Yaml

end RepoConventions
