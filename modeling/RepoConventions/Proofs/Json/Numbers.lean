import Mathlib.Data.List.TakeDrop
import RepoConventions.Json.Reading
import RepoConventions.Proofs.Decimal.Digits

/-!
# Numbers in JSON

The reader takes a number of the grammar whole and stops at what cannot go on with it. Decimals are written as such
numbers: an integer by its digits, a double by the digits of its shortest decimal, which has no superfluous zero.
-/

namespace RepoConventions.Json

open Text (isDigit)

def IsDigits (ds : List Char) : Prop := ds ≠ [] ∧ ∀ d ∈ ds, isDigit d = true

inductive IsWhole : List Char → Prop
  | zero : IsWhole ['0']
  | digits {ds : List Char} (hdigits : IsDigits ds) (hlead : ds.head? ≠ some '0') : IsWhole ds

inductive IsFraction : List Char → Prop
  | none : IsFraction []
  | point {ds : List Char} (hdigits : IsDigits ds) : IsFraction ('.' :: ds)

inductive IsExponent : List Char → Prop
  | none : IsExponent []
  | unsigned {e : Char} {ds : List Char} (he : e = 'e' ∨ e = 'E') (hdigits : IsDigits ds) : IsExponent (e :: ds)
  | signed {e s : Char} {ds : List Char} (he : e = 'e' ∨ e = 'E') (hs : s = '+' ∨ s = '-') (hdigits : IsDigits ds) :
    IsExponent (e :: s :: ds)

inductive IsUnsigned : List Char → Prop
  | parts {w f e : List Char} (hw : IsWhole w) (hf : IsFraction f) (he : IsExponent e) : IsUnsigned (w ++ (f ++ e))

inductive IsNumber : List Char → Prop
  | positive {cs : List Char} (h : IsUnsigned cs) : IsNumber cs
  | negative {cs : List Char} (h : IsUnsigned cs) : IsNumber ('-' :: cs)

/-! What cannot go on with a number -/

def EndsDigits (cs : List Char) : Prop := ∀ c ∈ cs.head?, isDigit c = false

def EndsFraction (cs : List Char) : Prop := ∀ c ∈ cs.head?, isDigit c = false ∧ c ≠ '.'

/-- What stands first is no part of a number. -/
def EndsNumber (cs : List Char) : Prop := ∀ c ∈ cs.head?, isDigit c = false ∧ c ≠ '.' ∧ c ≠ 'e' ∧ c ≠ 'E'

variable {w f e ds rest : List Char}

theorem IsDigits.exists_cons (h : IsDigits ds) : ∃ d more, ds = d :: more ∧ isDigit d = true := by
  obtain ⟨d, more, rfl⟩ := List.exists_cons_of_ne_nil h.1
  exact ⟨d, more, rfl, h.2 d List.mem_cons_self⟩

theorem IsWhole.exists_cons (h : IsWhole w) : ∃ d more, w = d :: more ∧ isDigit d = true := by
  cases h with
  | zero => exact ⟨'0', [], rfl, rfl⟩
  | digits hdigits _ => exact hdigits.exists_cons

theorem IsUnsigned.exists_cons {cs : List Char} (h : IsUnsigned cs) : ∃ d more, cs = d :: more ∧ isDigit d = true := by
  obtain ⟨hw, hf, he⟩ := h
  obtain ⟨d, more, rfl, hd⟩ := hw.exists_cons
  exact ⟨d, _, rfl, hd⟩

theorem IsNumber.exists_cons {cs : List Char} (h : IsNumber cs) :
    ∃ c more, cs = c :: more ∧ (c = '-' ∨ isDigit c = true) := by
  cases h with
  | positive h =>
    obtain ⟨d, more, rfl, hd⟩ := h.exists_cons
    exact ⟨d, more, rfl, .inr hd⟩
  | negative h => exact ⟨'-', _, rfl, .inl rfl⟩

theorem EndsDigits.head?_map_isDigit (h : EndsDigits rest) : (rest.head?.map isDigit).getD false = false := by
  cases hhead : rest.head? with
  | none => rfl
  | some c => exact h c hhead

theorem EndsNumber.exponent_append (h : EndsNumber rest) (he : IsExponent e) : EndsFraction (e ++ rest) := by
  intro c hc
  cases he with
  | none => exact ⟨(h c hc).1, (h c hc).2.1⟩
  | unsigned he _ =>
    obtain rfl := Option.some.inj hc
    rcases he with rfl | rfl <;> decide
  | signed he _ _ =>
    obtain rfl := Option.some.inj hc
    rcases he with rfl | rfl <;> decide

theorem EndsFraction.fraction_append (h : EndsFraction rest) (hf : IsFraction f) : EndsDigits (f ++ rest) := by
  intro c hc
  cases hf with
  | none => exact (h c hc).1
  | point _ =>
    obtain rfl := Option.some.inj hc
    decide

/-! Reading -/

theorem digits?_append (h : IsDigits ds) (hrest : EndsDigits rest) : digits? (ds ++ rest) = some (ds, rest) := by
  have hnone : rest.takeWhile isDigit = [] ∧ rest.dropWhile isDigit = rest := by
    cases rest with
    | nil => exact ⟨rfl, rfl⟩
    | cons c more =>
      have hc : isDigit c = false := hrest c rfl
      simp [hc]
  have hspan : (ds ++ rest).span isDigit = (ds, rest) := by
    rw [List.span_eq_takeWhile_dropWhile, List.takeWhile_append_of_pos h.2, List.dropWhile_append_of_pos h.2, hnone.1,
      hnone.2, List.append_nil]
  obtain ⟨d, more, rfl, -⟩ := h.exists_cons
  rw [digits?, hspan]

theorem whole?_append (h : IsWhole w) (hrest : EndsDigits rest) : whole? (w ++ rest) = some (w, rest) := by
  cases h with
  | zero => rfl
  | digits hdigits hlead =>
    have hread := digits?_append hdigits hrest
    obtain ⟨d, more, rfl, -⟩ := hdigits.exists_cons
    rw [List.cons_append] at hread ⊢
    unfold whole?
    split
    · next heq =>
      cases heq
      exact absurd rfl hlead
    · exact hread

theorem fraction?_append (h : IsFraction f) (hrest : EndsFraction rest) : fraction? (f ++ rest) = some (f, rest) := by
  cases h with
  | none =>
    rw [List.nil_append]
    unfold fraction?
    split
    · exact absurd rfl (hrest '.' rfl).2
    · rfl
  | point hdigits =>
    have hread := digits?_append hdigits fun c hc => (hrest c hc).1
    rw [List.cons_append, fraction?, hread]
    rfl

theorem exponent?_append (h : IsExponent e) (hrest : EndsNumber rest) : exponent? (e ++ rest) = some (e, rest) := by
  have hdigits {ds : List Char} (h : IsDigits ds) : digits? (ds ++ rest) = some (ds, rest) :=
    digits?_append h fun c hc => (hrest c hc).1
  cases h with
  | none =>
    rw [List.nil_append]
    cases rest with
    | nil => rfl
    | cons c more =>
      obtain ⟨-, -, hlower, hupper⟩ := hrest c rfl
      simp [exponent?, hlower, hupper]
  | unsigned he h =>
    have hread := hdigits h
    obtain ⟨d, more, rfl, hd⟩ := h.exists_cons
    have hplus : d ≠ '+' := by rintro rfl; exact absurd hd (by decide)
    have hminus : d ≠ '-' := by rintro rfl; exact absurd hd (by decide)
    rw [List.cons_append] at hread
    simp [exponent?, he, hplus, hminus, hread]
  | signed he hs h => simp [exponent?, he, hs, hdigits h]

def afterSign? (sign cs : List Char) : Option (Json × List Char) := do
  let (w, cs) ← whole? cs
  if w = ['0'] && (cs.head?.map isDigit).getD false then none
  let (f, cs) ← fraction? cs
  let (e, cs) ← exponent? cs
  some (.number (.ofList (sign ++ w ++ f ++ e)), cs)

theorem number?_eq_afterSign? {cs : List Char} (h : cs.head? ≠ some '-') : number? cs = afterSign? [] cs := by
  cases cs with
  | nil => rfl
  | cons c rest =>
    have hminus : ∀ after, c :: rest ≠ '-' :: after := by
      rintro after hcons
      exact h (by rw [hcons, List.head?_cons])
    rw [number?.eq_2 _ hminus]
    rfl

theorem afterSign?_append (sign : List Char) {cs : List Char} (h : IsUnsigned cs) (hrest : EndsNumber rest) :
    afterSign? sign (cs ++ rest) = some (.number (.ofList (sign ++ cs)), rest) := by
  cases h with
  | @parts w f e hw hf he =>
    have hends := hrest.exponent_append he
    have hendsDigits := hends.fraction_append hf
    simp only [afterSign?, List.append_assoc, whole?_append hw hendsDigits, fraction?_append hf hends,
      exponent?_append he hrest, hendsDigits.head?_map_isDigit, Bool.and_false, Option.bind_eq_bind, Option.bind_some]
    rfl

/-- A number is read whole, up to what cannot go on with it. -/
theorem number?_append {cs : List Char} (h : IsNumber cs) (hrest : EndsNumber rest) :
    number? (cs ++ rest) = some (.number (.ofList cs), rest) := by
  cases h with
  | positive h =>
    have hread := afterSign?_append [] h hrest
    obtain ⟨d, more, rfl, hd⟩ := h.exists_cons
    rw [number?_eq_afterSign?, hread, List.nil_append]
    rintro hhead
    obtain rfl := Option.some.inj hhead
    exact absurd hd (by decide)
  | negative h => exact afterSign?_append ['-'] h hrest

end RepoConventions.Json

namespace RepoConventions.Decimal

open Json (IsDigits IsWhole IsFraction IsExponent IsUnsigned IsNumber)
open Text (isDigit)

theorem isDigits_digitsText (n : Nat) : IsDigits (digitsText n) :=
  ⟨digitsText_ne_nil n, fun _ => isDigit_of_mem_digitsText⟩

theorem isWhole_digitsText (n : Nat) : IsWhole (digitsText n) := by
  by_cases h : n = 0
  · subst h
    exact .zero
  · exact .digits (isDigits_digitsText n) (head?_digitsText h)

theorem isDigit_of_mem_zeros {n : Nat} {c : Char} (h : c ∈ List.replicate n '0') : isDigit c = true := by
  rw [List.eq_of_mem_replicate h]
  decide

theorem isExponent_exponentText (style : NumberStyle) (e : Int) : IsExponent (exponentText style e) := by
  rw [exponentText]
  split
  · exact .signed (.inl rfl) (.inr rfl) (isDigits_digitsText _)
  · split
    · exact .signed (.inl rfl) (.inl rfl) (isDigits_digitsText _)
    · exact .unsigned (.inl rfl) (isDigits_digitsText _)

theorem isUnsigned_digitsText (n : Nat) : IsUnsigned (digitsText n) := by
  simpa using IsUnsigned.parts (isWhole_digitsText n) .none .none

/-- A decimal that is not zero has no superfluous zero in front, in whichever of its four forms it is written. -/
theorem Scaled.isUnsigned_text (style : NumberStyle) {s : Scaled} (h : s.digits ≠ 0) : IsUnsigned (s.text style) := by
  have hlead := head?_digitsText h
  have hdigits := isDigits_digitsText s.digits
  unfold text
  generalize digitsText s.digits = ds at hdigits hlead
  have hpart {part : List Char} (hne : part ≠ []) (hsub : part ⊆ ds) : IsDigits part :=
    ⟨hne, fun c hc => hdigits.2 c (hsub hc)⟩
  obtain ⟨d, more, rfl, hd⟩ := hdigits.exists_cons
  have hfirst : IsWhole [d] := .digits (hpart (by simp) (by simp)) hlead
  dsimp only
  split
  · -- zeros take the place of the exponent
    have hwhole : IsWhole (d :: more ++ List.replicate s.exponent.toNat '0') :=
      .digits ⟨by simp, fun c hc => (List.mem_append.mp hc).elim (hdigits.2 c) isDigit_of_mem_zeros⟩ hlead
    have hfraction : IsFraction ['.', '0'] := .point (isDigits_digitsText 0)
    simpa using IsUnsigned.parts hwhole hfraction .none
  · next hplain =>
    split
    · next hpoint =>
      -- the point is among the digits
      simp only [Bool.and_eq_true, decide_eq_true_eq, List.length_cons] at hplain hpoint
      obtain ⟨k, hk⟩ : ∃ k, (((d :: more).length : Int) + s.exponent).toNat = k + 1 :=
        Nat.exists_eq_succ_of_ne_zero (by simp only [List.length_cons]; omega)
      have hdrop : (d :: more).drop (k + 1) ≠ [] := by
        rw [ne_eq, List.drop_eq_nil_iff, List.length_cons]
        simp only [List.length_cons] at hk
        omega
      have hwhole : IsWhole ((d :: more).take (k + 1)) := .digits (hpart (by simp) (List.take_subset _ _)) hlead
      rw [hk]
      simpa using IsUnsigned.parts hwhole (.point (hpart hdrop (List.drop_subset _ _))) .none
    · split
      · -- the point and zeros stand before the digits
        next hpoint =>
        have hfraction : IsDigits (List.replicate (-(((d :: more).length : Int) + s.exponent)).toNat '0' ++ d :: more) :=
          ⟨by simp, fun c hc => (List.mem_append.mp hc).elim isDigit_of_mem_zeros (hdigits.2 c)⟩
        simpa using IsUnsigned.parts .zero (.point hfraction) .none
      · cases more with
        | nil => exact .parts hfirst .none (isExponent_exponentText style _)
        | cons c more =>
          exact .parts hfirst (.point (hpart (by simp) (by simp))) (isExponent_exponentText style _)

theorem Binary64.isNumber_finiteText? {style : NumberStyle} {x : Binary64} {t : String}
    (h : x.finiteText? style = some t) : IsNumber t.toList := by
  cases x with
  | nan => cases h
  | infinite negative => cases h
  | finite negative m e =>
    obtain rfl := Option.some.inj h
    rw [String.toList_ofList]
    have hbody : IsUnsigned (if m = 0 then ['0', '.', '0'] else (shortest m e).text style) := by
      split
      · exact .parts .zero (.point (isDigits_digitsText 0)) .none
      · next hm => exact Scaled.isUnsigned_text style (digits_shortest_ne_zero hm e)
    cases negative with
    | true => exact .negative hbody
    | false => exact .positive hbody

end RepoConventions.Decimal
