import Mathlib.Data.List.Chain
import RepoConventions.Text.Fold

/-!
# Orbits of the simple case folding

The runs of the folding table stand in order, and no image of a run lies in any run. So folding twice is folding once,
and the orbit of a code point holds exactly the code points with its folding.
-/

namespace RepoConventions.Text

namespace CaseRun

/-- The last code point of a run. -/
def last (r : CaseRun) : Nat := r.first + r.stride * (r.count - 1)

def image (r : CaseRun) : CaseRun := ⟨((r.first : Int) + r.shift).toNat, r.count, r.stride, 0⟩

def apart (r q : CaseRun) : Bool :=
  Nat.blt r.last q.first || Nat.blt q.last r.first ||
    (r.stride == 2 && q.stride == 2 && !(r.first % 2 == q.first % 2)) || (r.count == 1 && !q.has r.first)

variable {r q : CaseRun} {n : Nat}

theorem has_iff : r.has n = true ↔ r.first ≤ n ∧ (n - r.first) % r.stride = 0 ∧ (n - r.first) / r.stride < r.count := by
  simp [has, and_assoc]

theorem first_le (h : r.has n = true) : r.first ≤ n := (has_iff.mp h).1

theorem le_last (h : r.has n = true) : n ≤ r.last := by
  obtain ⟨hfirst, hmod, hcount⟩ := has_iff.mp h
  have hdiv := Nat.div_add_mod (n - r.first) r.stride
  have hmul : r.stride * ((n - r.first) / r.stride) ≤ r.stride * (r.count - 1) :=
    Nat.mul_le_mul_left _ (by omega)
  unfold last
  omega

theorem eq_first_of_count (h : r.has n = true) (hcount : r.count = 1) : n = r.first := by
  have hlast := le_last h
  have hfirst := first_le h
  rw [last, hcount] at hlast
  omega

theorem not_has_of_apart (h : apart r q = true) (hr : r.has n = true) : q.has n = false := by
  rw [Bool.eq_false_iff]
  intro hq
  have hr₁ := first_le hr
  have hr₂ := le_last hr
  have hq₁ := first_le hq
  have hq₂ := le_last hq
  simp only [apart, Bool.or_eq_true, Bool.and_eq_true, Nat.blt_eq, beq_iff_eq, Bool.not_eq_true', beq_eq_false_iff_ne] at h
  rcases h with ((h | h) | ⟨⟨hr₃, hq₃⟩, h⟩) | ⟨hcount, h⟩
  · omega
  · omega
  · have hrmod := (has_iff.mp hr).2.1
    have hqmod := (has_iff.mp hq).2.1
    rw [hr₃] at hrmod
    rw [hq₃] at hqmod
    omega
  · rw [← eq_first_of_count hr hcount, hq] at h
    cases h

theorem image_has (h : r.has n = true) (hpos : 0 ≤ (r.first : Int) + r.shift) :
    r.image.has ((n : Int) + r.shift).toNat = true := by
  obtain ⟨hfirst, hmod, hcount⟩ := has_iff.mp h
  have hsub : ((n : Int) + r.shift).toNat - ((r.first : Int) + r.shift).toNat = n - r.first := by omega
  refine has_iff.mpr ⟨?_, ?_, ?_⟩
  · simp only [image]
    omega
  · simp only [image, hsub]
    exact hmod
  · simp only [image, hsub]
    exact hcount

end CaseRun

/-! The folding table -/

set_option maxRecDepth 8000 in
theorem foldRuns_first : ∀ r ∈ foldRuns, 128 ≤ r.first ∧ 107 ≤ (r.first : Int) + r.shift := by decide +kernel

set_option maxRecDepth 8000 in
private theorem foldRuns_isChain : foldRuns.IsChain fun r q => r.last < q.first := by decide +kernel

theorem foldRuns_sorted : foldRuns.Pairwise fun r q => r.last < q.first := by
  have htrans : Trans (fun r q : CaseRun => r.last < q.first) (fun r q : CaseRun => r.last < q.first)
      (fun r q : CaseRun => r.last < q.first) := by
    refine ⟨fun {a b c} hab hbc => ?_⟩
    have hb : b.first ≤ b.last := Nat.le_add_right _ _
    show a.last < c.first
    omega
  exact List.isChain_iff_pairwise.mp foldRuns_isChain

set_option maxRecDepth 8000 in
private theorem foldRuns_apart : foldRuns.all (fun r => foldRuns.all fun q => r.image.apart q) = true := by
  decide +kernel

theorem foldRuns_image {r q : CaseRun} (hr : r ∈ foldRuns) (hq : q ∈ foldRuns) : r.image.apart q = true :=
  List.all_eq_true.mp (List.all_eq_true.mp foldRuns_apart r hr) q hq

theorem mapCase_of_mem {runs : List CaseRun} (hsorted : runs.Pairwise fun r q => r.last < q.first) {r : CaseRun}
    (hr : r ∈ runs) {n : Nat} (hn : r.has n = true) : mapCase runs n = ((n : Int) + r.shift).toNat := by
  have hfind : runs.find? (·.has n) = some r := by
    induction runs with
    | nil => cases hr
    | cons q rest ih =>
      obtain ⟨hq, hrest⟩ := List.pairwise_cons.mp hsorted
      cases List.mem_cons.mp hr with
      | inl hrq =>
        subst hrq
        exact List.find?_cons_of_pos hn
      | inr hmem =>
        have hqn : ¬ q.has n = true := by
          intro hqn
          have hlast := CaseRun.le_last hqn
          have hfirst := CaseRun.first_le hn
          have hlt := hq r hmem
          omega
        rw [List.find?_cons_of_neg (by simpa using hqn)]
        exact ih hrest hmem
  rw [mapCase, hfind]

theorem mapCase_of_not_mem {runs : List CaseRun} {n : Nat} (h : ∀ r ∈ runs, r.has n = false) :
    mapCase runs n = n := by
  have hfind : runs.find? (·.has n) = none := by
    rw [List.find?_eq_none]
    intro r hr
    rw [h r hr]
    exact Bool.false_ne_true
  rw [mapCase, hfind]

/-! Folding -/

theorem foldCode_of_lt {n : Nat} (h : n < 128) : foldCode n = if 65 ≤ n ∧ n ≤ 90 then n + 32 else n := by
  rw [foldCode, if_pos h]
  simp

theorem foldCode_of_mem {r : CaseRun} (hr : r ∈ foldRuns) {n : Nat} (hn : r.has n = true) :
    (foldCode n : Int) = n + r.shift := by
  have hfirst := foldRuns_first r hr
  have hle := CaseRun.first_le hn
  rw [foldCode, if_neg (by omega), mapCase_of_mem foldRuns_sorted hr hn]
  omega

theorem foldCode_of_not_mem {n : Nat} (h : 128 ≤ n) (hn : ∀ r ∈ foldRuns, r.has n = false) : foldCode n = n := by
  rw [foldCode, if_neg (by omega), mapCase_of_not_mem hn]

/-- Where a folding comes from: a capital of ASCII, a run, or the code point itself. -/
theorem foldCode_cases (n : Nat) :
    (65 ≤ n ∧ n ≤ 90 ∧ foldCode n = n + 32) ∨
      (∃ r ∈ foldRuns, r.has n = true ∧ (foldCode n : Int) = n + r.shift) ∨
      (foldCode n = n ∧ ¬ (65 ≤ n ∧ n ≤ 90) ∧ ∀ r ∈ foldRuns, r.has n = false) := by
  have hlow (hn : n < 128) : ∀ r ∈ foldRuns, r.has n = false := by
    intro r hr
    rw [Bool.eq_false_iff]
    intro hrn
    have hfirst := (foldRuns_first r hr).1
    have hle := CaseRun.first_le hrn
    omega
  by_cases hn : n < 128
  · by_cases hcap : 65 ≤ n ∧ n ≤ 90
    · exact .inl ⟨hcap.1, hcap.2, by rw [foldCode_of_lt hn, if_pos hcap]⟩
    · exact .inr (.inr ⟨by rw [foldCode_of_lt hn, if_neg hcap], hcap, hlow hn⟩)
  · by_cases hmem : ∃ r ∈ foldRuns, r.has n = true
    · obtain ⟨r, hr, hrn⟩ := hmem
      exact .inr (.inl ⟨r, hr, hrn, foldCode_of_mem hr hrn⟩)
    · have hnone : ∀ r ∈ foldRuns, r.has n = false := by
        intro r hr
        rw [Bool.eq_false_iff]
        exact fun hrn => hmem ⟨r, hr, hrn⟩
      exact .inr (.inr ⟨foldCode_of_not_mem (by omega) hnone, by omega, hnone⟩)

theorem foldCode_foldCode (n : Nat) : foldCode (foldCode n) = foldCode n := by
  rcases foldCode_cases n with ⟨hlo, hhi, hf⟩ | ⟨r, hr, hrn, hf⟩ | ⟨hf, -, -⟩
  · rw [hf, foldCode_of_lt (by omega), if_neg (by omega)]
  · have hfirst := foldRuns_first r hr
    have hle := CaseRun.first_le hrn
    have himage : r.image.has (foldCode n) = true := by
      have h := CaseRun.image_has hrn (by omega)
      rwa [← hf, Int.toNat_natCast] at h
    have hnone : ∀ q ∈ foldRuns, q.has (foldCode n) = false :=
      fun q hq => CaseRun.not_has_of_apart (foldRuns_image hr hq) himage
    by_cases hlow : foldCode n < 128
    · rw [foldCode_of_lt hlow, if_neg (by omega)]
    · exact foldCode_of_not_mem (by omega) hnone
  · rw [hf, hf]

theorem mem_orbit_iff (m n : Nat) : m ∈ orbit n ↔ foldCode m = foldCode n := by
  have hmem : m ∈ orbit n ↔ m = foldCode n ∨ (97 ≤ foldCode n ∧ foldCode n ≤ 122 ∧ m = foldCode n - 32) ∨
      ∃ r ∈ foldRuns, r.has m = true ∧ m = ((foldCode n : Int) - r.shift).toNat := by
    have hcap : m ∈ (if 97 ≤ foldCode n && foldCode n ≤ 122 then [foldCode n - 32] else []) ↔
        97 ≤ foldCode n ∧ foldCode n ≤ 122 ∧ m = foldCode n - 32 := by
      by_cases hlo : 97 ≤ foldCode n <;> by_cases hhi : foldCode n ≤ 122 <;> simp [hlo, hhi]
    have hrun (r : CaseRun) : (if r.has ((foldCode n : Int) - r.shift).toNat then
        some ((foldCode n : Int) - r.shift).toNat else none) = some m ↔
          r.has m = true ∧ m = ((foldCode n : Int) - r.shift).toNat := by
      constructor
      · intro h
        split at h
        · next hhas =>
          cases h
          exact ⟨hhas, rfl⟩
        · cases h
      · intro hparts
        obtain ⟨hhas, rfl⟩ := hparts
        rw [if_pos hhas]
    simp only [orbit, List.cons_append, List.mem_cons, List.mem_append, hcap, List.mem_filterMap, hrun]
  rw [hmem]
  constructor
  · intro hparts
    rcases hparts with rfl | ⟨hlo, hhi, rfl⟩ | ⟨r, hr, hhas, hm⟩
    · exact foldCode_foldCode n
    · rw [foldCode_of_lt (by omega), if_pos (by omega)]
      omega
    · have hf := foldCode_of_mem hr hhas
      have hfirst := foldRuns_first r hr
      have hle := CaseRun.first_le hhas
      omega
  · intro h
    rcases foldCode_cases m with ⟨hlo, hhi, hf⟩ | ⟨r, hr, hhas, hf⟩ | ⟨hf, -, -⟩
    · exact .inr (.inl ⟨by omega, by omega, by omega⟩)
    · exact .inr (.inr ⟨r, hr, hhas, by omega⟩)
    · exact .inl (by omega)

/-- No other character is a slash but for case. -/
theorem mem_orbit_slash_iff {n : Nat} : 47 ∈ orbit n ↔ n = 47 := by
  rw [mem_orbit_iff, foldCode_of_lt (by decide), if_neg (by decide)]
  constructor
  · intro h
    rcases foldCode_cases n with ⟨hlo, -, hf⟩ | ⟨r, hr, hn, hf⟩ | ⟨hf, -, -⟩
    · omega
    · have hfirst := foldRuns_first r hr
      have hle := CaseRun.first_le hn
      omega
    · omega
  · intro heq
    subst heq
    rfl

theorem sameFold_slash_iff {d : Char} : sameFold '/' d = true ↔ d = '/' := by
  have horbit : sameFold '/' d = true ↔ d.toNat = 47 := by
    rw [← mem_orbit_slash_iff, mem_orbit_iff, sameFold, decide_eq_true_iff]
    rfl
  rw [horbit, ← Char.toNat_inj]
  rfl

end RepoConventions.Text
