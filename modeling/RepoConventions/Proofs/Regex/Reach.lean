import RepoConventions.Proofs.Regex.Row

/-!
# What an expression reaches

`Spans` is the meaning of an expression as a relation between positions, and the matcher takes marks along it.
-/

namespace RepoConventions.Regex

def Takes (p : Char → Bool) (s : List Char) (i j : Nat) : Prop := ∃ c, s[i]? = some c ∧ p c = true ∧ j = i + 1

def charBefore (s : List Char) (i : Nat) : Option Char := if i = 0 then none else s[i - 1]?

/-- Which parts of a text an expression matches: those from one position to another. -/
def Spans (s : List Char) : Regex → Nat → Nat → Prop
  | empty, i, j => i = j
  | literal f c, i, j => Takes (fun d => (f.variants d.toNat).contains c.toNat) s i j
  | dot d, i, j => Takes d.has s i j
  | set f cs, i, j => Takes (fun d => cs.has f d.toNat) s i j
  | look l, i, j => i = j ∧ l.holds (charBefore s i) s[i]? = true
  | group r, i, j => Spans s r i j
  | seq r t, i, j => ∃ k, Spans s r i k ∧ Spans s t k j
  | alt r t, i, j => Spans s r i j ∨ Spans s t i j
  | repeated r least most, i, j =>
    ∃ n, least ≤ n ∧ (∀ m, most = some m → n ≤ max least m) ∧ Chain (Spans s r) n i j

/-! Expressions -/

variable (s : List Char)

theorem carries_step (p : Char → Bool) : Carries (s.length + 1) (Row.step p s) (Takes p s) where
  length row h := by
    rw [Row.step, List.length_cons, List.length_zipWith, h]
    omega
  marked row h j := by
    unfold Row.Marked Row.step Takes
    cases j with
    | zero => simp
    | succ j =>
      rw [List.getElem?_cons_succ, List.getElem?_zipWith]
      by_cases hj : j < s.length
      · have hrow : j < row.length := by omega
        rw [List.getElem?_eq_getElem hj, List.getElem?_eq_getElem hrow]
        constructor
        · intro hmark
          simp only [Option.some.injEq, Bool.and_eq_true] at hmark
          refine ⟨j, ?_, s[j], List.getElem?_eq_getElem hj, hmark.2, rfl⟩
          rw [List.getElem?_eq_getElem hrow, hmark.1]
        · intro hparts
          obtain ⟨i, hi, c, hc, hp, hij⟩ := hparts
          cases Nat.succ.inj hij
          rw [List.getElem?_eq_getElem hrow] at hi
          rw [List.getElem?_eq_getElem hj] at hc
          simp only [Option.some.injEq] at hi hc ⊢
          rw [hi, hc, hp]
          rfl
      · rw [List.getElem?_eq_none (by omega)]
        constructor
        · intro hmark
          cases hmark
        · intro hparts
          obtain ⟨i, -, c, hc, -, hij⟩ := hparts
          cases Nat.succ.inj hij
          rw [List.getElem?_eq_none (by omega)] at hc
          cases hc

theorem length_surroundings (before : Option Char) : (surroundings before s).length = s.length + 1 := by
  induction s generalizing before with
  | nil => rfl
  | cons c rest ih => rw [surroundings, List.length_cons, ih, List.length_cons]

theorem getElem?_surroundings (before : Option Char) {i : Nat} (h : i ≤ s.length) :
    (surroundings before s)[i]? = some (if i = 0 then before else s[i - 1]?, s[i]?) := by
  induction s generalizing before i with
  | nil =>
    have hi : i = 0 := Nat.le_zero.mp h
    subst hi
    rfl
  | cons c rest ih =>
    cases i with
    | zero => rfl
    | succ i =>
      rw [surroundings, List.getElem?_cons_succ, ih (some c) (Nat.le_of_succ_le_succ h)]
      cases i <;> rfl

theorem carries_look (l : Look) :
    Carries (s.length + 1) (Row.look l s) fun i j => i = j ∧ l.holds (charBefore s i) s[i]? = true where
  length row h := by rw [Row.look, List.length_zipWith, length_surroundings, h, Nat.min_self]
  marked row h j := by
    unfold Row.Marked Row.look
    rw [List.getElem?_zipWith]
    by_cases hj : j < row.length
    · rw [List.getElem?_eq_getElem hj, getElem?_surroundings s none (by omega)]
      simp only [Option.some.injEq, Bool.and_eq_true]
      constructor
      · intro hparts
        obtain ⟨hrow, hholds⟩ := hparts
        exact ⟨j, by rw [List.getElem?_eq_getElem hj, hrow], rfl, hholds⟩
      · intro hparts
        obtain ⟨i, hi, rfl, hholds⟩ := hparts
        rw [List.getElem?_eq_getElem hj, Option.some.injEq] at hi
        exact ⟨hi, hholds⟩
    · rw [List.getElem?_eq_none (by omega)]
      constructor
      · intro hmark
        cases hmark
      · intro hparts
        obtain ⟨i, hi, rfl, -⟩ := hparts
        exact absurd (Row.Marked.lt hi) hj

theorem carries_reach (r : Regex) : Carries (s.length + 1) (reach s r) (Spans s r) := by
  induction r with
  | empty => exact ⟨fun _ h => h, fun row _ j => by simp [reach, Spans]⟩
  | literal f c => exact carries_step s _
  | dot d => exact carries_step s _
  | set f cs => exact carries_step s _
  | look l => exact carries_look s l
  | group r ih => exact ih
  | seq r t ihr iht => exact ihr.seq iht
  | alt r t ihr iht => exact ihr.alt iht
  | repeated r least most ih => exact ih.repeated least most

/-- A part of a text matches when the expression spans it from one position of the text to another. -/
theorem occursIn_iff (r : Regex) (text : String) :
    r.occursIn text = true ↔ ∃ i j, i ≤ text.toList.length ∧ Spans text.toList r i j := by
  have hlength : (true :: text.toList.map fun _ => true).length = text.toList.length + 1 := by simp
  have hmarked (i : Nat) :
      Row.Marked (true :: text.toList.map fun _ => true) i ↔ i ≤ text.toList.length := by
    cases i with
    | zero => simp [Row.Marked]
    | succ i =>
      simp only [Row.Marked, List.getElem?_cons_succ, List.getElem?_map, Option.map_eq_some_iff, and_true,
        List.getElem?_eq_some_iff]
      constructor
      · intro h
        obtain ⟨_, hi, _⟩ := h
        exact hi
      · intro hi
        exact ⟨_, hi, rfl⟩
  simp only [occursIn, Row.contains_true_iff, (carries_reach text.toList r).marked _ hlength, hmarked]
  exact exists_comm

theorem matchesAll_iff (r : Regex) : r.matchesAll s = true ↔ Spans s r 0 s.length := by
  have hlength : (true :: s.map fun _ => false).length = s.length + 1 := by simp
  have hcarries := carries_reach s r
  have hmarked (i : Nat) : Row.Marked (true :: s.map fun _ => false) i ↔ i = 0 := by
    cases i with
    | zero => simp [Row.Marked]
    | succ i =>
      simp only [Row.Marked, List.getElem?_cons_succ, List.getElem?_map, Option.map_eq_some_iff, Bool.false_eq_true,
        and_false, exists_false, Nat.succ_ne_zero]
  have hlast : (reach s r (true :: s.map fun _ => false)).getLast? =
      (reach s r (true :: s.map fun _ => false))[s.length]? := by
    rw [List.getLast?_eq_getElem?, hcarries.length _ hlength, Nat.add_sub_cancel]
  have hend := hcarries.marked _ hlength s.length
  simp only [hmarked, exists_eq_left] at hend
  unfold Row.Marked at hend
  rw [matchesAll, hlast, ← hend]
  exact decide_eq_true_iff

/-! Parts of a text after a part that is passed -/

theorem takes_append_iff {p : Char → Bool} {passed rest : List Char} {k : Nat} :
    Takes p (passed ++ rest) passed.length k ↔
      ∃ c after, rest = c :: after ∧ p c = true ∧ k = (passed ++ [c]).length := by
  unfold Takes
  rw [List.getElem?_append_right (Nat.le_refl _), Nat.sub_self]
  cases rest with
  | nil => simp
  | cons c after => simp [List.length_append]

theorem chain_takes_iff {p : Char → Bool} {passed rest : List Char} {n k : Nat} :
    Chain (Takes p (passed ++ rest)) n passed.length k ↔
      ∃ piece after, rest = piece ++ after ∧ piece.length = n ∧ (∀ c ∈ piece, p c = true) ∧
        k = (passed ++ piece).length := by
  induction n generalizing passed rest with
  | zero =>
    constructor
    · intro heq
      subst heq
      exact ⟨[], rest, rfl, rfl, by simp, by simp⟩
    · intro h
      obtain ⟨piece, after, -, hlength, -, rfl⟩ := h
      rw [List.length_eq_zero_iff.mp hlength, List.append_nil]
      rfl
  | succ n ih =>
    constructor
    · intro h
      obtain ⟨l, hstep, hchain⟩ := h
      obtain ⟨c, after, rfl, hc, rfl⟩ := takes_append_iff.mp hstep
      rw [List.append_cons passed c after] at hchain
      obtain ⟨piece, after, rfl, hlength, hpiece, rfl⟩ := ih.mp hchain
      refine ⟨c :: piece, after, rfl, by rw [List.length_cons, hlength], ?_, by simp⟩
      intro d hd
      cases List.mem_cons.mp hd with
      | inl hdc => exact hdc ▸ hc
      | inr hd => exact hpiece d hd
    · intro h
      obtain ⟨piece, after, rfl, hlength, hpiece, rfl⟩ := h
      cases piece with
      | nil => cases hlength
      | cons c piece =>
        refine ⟨(passed ++ [c]).length, takes_append_iff.mpr ⟨c, piece ++ after, rfl, ?_, rfl⟩, ?_⟩
        · exact hpiece c List.mem_cons_self
        · rw [List.cons_append, List.append_cons passed c (piece ++ after)]
          refine ih.mpr ⟨piece, after, rfl, Nat.succ.inj hlength, ?_, by simp⟩
          exact fun d hd => hpiece d (List.mem_cons_of_mem c hd)

theorem spans_repeated_iff {p : Char → Bool} {passed rest : List Char} {r : Regex} {least k : Nat}
    (hr : Spans (passed ++ rest) r = Takes p (passed ++ rest)) :
    Spans (passed ++ rest) (.repeated r least none) passed.length k ↔
      ∃ piece after, rest = piece ++ after ∧ least ≤ piece.length ∧ (∀ c ∈ piece, p c = true) ∧
        k = (passed ++ piece).length := by
  simp only [Spans, hr, chain_takes_iff]
  constructor
  · intro h
    obtain ⟨n, hn, -, piece, after, hrest, rfl, hpiece, hk⟩ := h
    exact ⟨piece, after, hrest, hn, hpiece, hk⟩
  · intro h
    obtain ⟨piece, after, hrest, hn, hpiece, hk⟩ := h
    have hmost : ∀ m, (none : Option Nat) = some m → piece.length ≤ max least m := by
      intro m hm
      cases hm
    exact ⟨piece.length, hn, hmost, piece, after, hrest, rfl, hpiece, hk⟩

/-- What a sequence of expressions matches, one after the other. -/
def SpansAll (s : List Char) : List Regex → Nat → Nat → Prop
  | [], i, j => i = j
  | r :: rest, i, j => ∃ k, Spans s r i k ∧ SpansAll s rest k j

theorem ofSequence_cons (r : Regex) {rest : List Regex} (h : rest ≠ []) :
    ofSequence (r :: rest) = seq r (ofSequence rest) := by
  cases rest with
  | nil => exact absurd rfl h
  | cons q rest => rfl

theorem spans_ofSequence {rs : List Regex} {i j : Nat} : Spans s (ofSequence rs) i j ↔ SpansAll s rs i j := by
  induction rs generalizing i with
  | nil => rfl
  | cons r rest ih =>
    cases rest with
    | nil => simp [ofSequence, SpansAll]
    | cons q rest =>
      rw [ofSequence_cons r (List.cons_ne_nil q rest), Spans, SpansAll]
      exact exists_congr fun k => and_congr_right fun _ => ih

/-- The parts of a sequence stand side by side, so that a longer sequence nests no deeper. -/
theorem nesting_ofSequence_le {rs : List Regex} {n : Nat} (h : ∀ r ∈ rs, ∀ b, r.nesting b ≤ n) (b : Beside) :
    (ofSequence rs).nesting b ≤ n + 1 := by
  have hbeside : (ofSequence rs).nesting .sequence ≤ n := by
    induction rs with
    | nil => exact Nat.zero_le n
    | cons r rest ih =>
      have hr := h r List.mem_cons_self
      cases rest with
      | nil => exact hr .sequence
      | cons q rest =>
        have hrest := ih fun r hr => h r (List.mem_cons_of_mem _ hr)
        rw [ofSequence_cons r (List.cons_ne_nil q rest), nesting, if_pos rfl]
        exact Nat.max_le.mpr ⟨hr .nothing, hrest⟩
  cases rs with
  | nil => exact Nat.zero_le _
  | cons r rest =>
    have hr := h r List.mem_cons_self
    cases rest with
    | nil => exact Nat.le_succ_of_le (hr b)
    | cons q rest =>
      rw [ofSequence_cons r (List.cons_ne_nil q rest), nesting] at hbeside ⊢
      rw [if_pos rfl] at hbeside
      split <;> omega

end RepoConventions.Regex
