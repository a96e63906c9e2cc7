import RepoConventions.Proofs.Yaml.Twin

/-!
# Canonical texts

The typed reading shows a boolean or number by its canonical text, which is never a word.
-/

namespace RepoConventions

namespace Decimal

def isNumberStart (c : Char) : Bool := c.isDigit || c = '-' || c = '.'

def BeginsNumber (cs : List Char) : Prop := ∀ c ∈ cs.head?, isNumberStart c = true

theorem beginsNumber_cons {c : Char} (cs : List Char) (h : isNumberStart c = true) : BeginsNumber (c :: cs) := by
  intro d hd
  cases hd
  exact h

theorem exists_digitsText (n : Nat) : ∃ d ds, digitsText n = d :: ds ∧ isNumberStart d = true := by
  obtain ⟨d, ds, hds⟩ := List.exists_cons_of_ne_nil (Nat.toDigits_ne_nil (n := n) (b := 10))
  have hmem : d ∈ Nat.toDigits 10 n := by
    rw [hds]
    exact List.mem_cons_self
  have hd : d.isDigit = true := Nat.isDigit_of_mem_toDigits (by decide) (by decide) hmem
  exact ⟨d, ds, hds, by simp [isNumberStart, hd]⟩

theorem beginsNumber_digitsText (n : Nat) : BeginsNumber (digitsText n) := by
  obtain ⟨d, ds, hds, hd⟩ := exists_digitsText n
  rw [hds]
  exact beginsNumber_cons ds hd

theorem Scaled.beginsNumber_text (style : NumberStyle) (s : Scaled) : BeginsNumber (s.text style) := by
  obtain ⟨d, ds, hds, hd⟩ := exists_digitsText s.digits
  simp only [text, hds]
  split
  · exact beginsNumber_cons _ hd
  · split
    · next hpoint =>
      -- a point after the first digit, so that one stays first
      obtain ⟨k, hk⟩ : ∃ k, ((d :: ds).length + s.exponent).toNat = k + 1 := Nat.exists_eq_succ_of_ne_zero (by
        simp only [Bool.and_eq_true, decide_eq_true_eq] at hpoint
        omega)
      rw [hk]
      exact beginsNumber_cons _ hd
    · split
      · exact beginsNumber_cons _ rfl
      · cases ds with
        | nil => exact beginsNumber_cons _ hd
        | cons e rest => exact beginsNumber_cons _ hd

end Decimal

namespace Yaml

theorem Number.beginsNumber_text (n : Number) : Decimal.BeginsNumber n.text.toList := by
  cases n with
  | int i =>
    rw [text, String.toList_ofList]
    split
    · exact Decimal.beginsNumber_cons _ rfl
    · exact Decimal.beginsNumber_digitsText _
  | float x =>
    cases x with
    | nan => exact Decimal.beginsNumber_cons _ rfl
    | infinite negative => cases negative <;> exact Decimal.beginsNumber_cons _ rfl
    | finite negative m e =>
      simp only [text, Decimal.Binary64.finiteText?, Option.getD_some, String.toList_ofList]
      cases negative with
      | true => exact Decimal.beginsNumber_cons _ rfl
      | false =>
        simp only [Bool.false_eq_true, if_false]
        split
        · exact Decimal.beginsNumber_cons _ rfl
        · exact Decimal.Scaled.beginsNumber_text _ _

/-- The text a scalar has typed and its text as written: the same, or the canonical text of a boolean or number and one
of its spellings. -/
def SameScalar (a b : String) : Prop := a = b ∨ ∃ v, Resolution.Spells b v ∧ v.scalarText? = some a

/-- A word that is no canonical text is shown as such by both readings or by neither. -/
theorem SameScalar.eq_word_iff {a b word : String} (h : SameScalar a b) (hword : Resolution.IsWord word)
    (hstart : ¬ Decimal.BeginsNumber word.toList) : a = word ↔ b = word := by
  rcases h with rfl | ⟨v, hspells, htext⟩
  · rfl
  · constructor
    · rintro rfl
      exfalso
      cases hspells with
      | @bool c h =>
        cases htext
        cases c <;> exact absurd hword (by decide)
      | int h =>
        cases htext
        exact hstart (Number.beginsNumber_text _)
      | float h =>
        cases htext
        exact hstart (Number.beginsNumber_text _)
    · rintro rfl
      exact absurd hword hspells.not_isWord

/-- What a decoder sees of twins. -/
inductive Twin.View : Value → Value → Prop
  | null : View .null .null
  | text {v : Value} {a b : String} (hv : v.HasText) (htext : v.scalarText? = some a) (hsame : SameScalar a b) :
    View v (.string b)
  | list {vs ws : List Value} (hitems : List.Forall₂ Twin vs ws) : View (.list vs) (.list ws)
  | mapping {es fs : List (Value × Value)} (hentries : List.Forall₂ TwinEntry es fs)
    (hapart : fs.Pairwise fun e f => e.1.same f.1 = false) : View (.mapping es) (.mapping fs)

theorem Twin.view {v w : Value} (h : Twin v w) : Twin.View v w := by
  cases h.shape with
  | null => exact .null
  | text => exact .text trivial rfl (.inl rfl)
  | spelled hspells =>
    have hcanonical := hspells
    cases hspells with
    | bool _ => exact .text trivial rfl (.inr ⟨_, hcanonical, rfl⟩)
    | int _ => exact .text trivial rfl (.inr ⟨_, hcanonical, rfl⟩)
    | float _ => exact .text trivial rfl (.inr ⟨_, hcanonical, rfl⟩)
  | list hitems => exact .list hitems
  | mapping hentries hapart => exact .mapping hentries hapart

theorem Twin.scalarText? {v w : Value} (h : Twin v w) : Option.Rel SameScalar v.scalarText? w.scalarText? := by
  cases h.view with
  | null => exact .none
  | list _ => exact .none
  | mapping _ _ => exact .none
  | text _ htext hsame =>
    rw [htext]
    exact .some hsame

theorem Twin.isMapping_eq {v w : Value} (h : Twin v w) : v.isMapping = w.isMapping := by
  cases h.view with
  | null => rfl
  | list _ => rfl
  | mapping _ _ => rfl
  | text hv _ _ =>
    rw [Value.isMapping, Value.entries?_of_hasText hv]
    rfl

theorem Twin.exists_mapping {v w : Value} (h : Twin v w) (hv : v.isMapping) : ∃ es, v = .mapping es := by
  cases h.view with
  | null => cases hv
  | list _ => cases hv
  | mapping _ _ => exact ⟨_, rfl⟩
  | text htext _ _ =>
    rw [Value.isMapping, Value.entries?_of_hasText htext] at hv
    cases hv

theorem Twin.isNull_eq {v w : Value} (h : Twin v w) : v.isNull = w.isNull := by
  cases h.view with
  | null => rfl
  | list _ => rfl
  | mapping _ _ => rfl
  | text hv _ _ => rcases hv.cases with ⟨b, rfl⟩ | ⟨x, rfl⟩ | ⟨s, rfl⟩ <;> rfl

end Yaml

end RepoConventions
