import RepoConventions.Regex.Basic

/-!
# Rows of marks

A step takes the marks of a row along a relation, and so does its repetition, also where it has no limit: a row that
still grows gains a mark, and it has no more than one for each position.
-/

namespace RepoConventions.Regex

def Chain (R : Nat → Nat → Prop) : Nat → Nat → Nat → Prop
  | 0, i, j => i = j
  | n + 1, i, j => ∃ k, R i k ∧ Chain R n k j

theorem Chain.add {R : Nat → Nat → Prop} {m n i j : Nat} :
    Chain R (m + n) i j ↔ ∃ k, Chain R m i k ∧ Chain R n k j := by
  induction m generalizing i with
  | zero => simp [Chain]
  | succ m ih =>
    rw [Nat.succ_add]
    simp only [Chain, ih]
    constructor
    · intro h
      obtain ⟨k, hik, l, hkl, hlj⟩ := h
      exact ⟨l, ⟨k, hik, hkl⟩, hlj⟩
    · intro h
      obtain ⟨l, ⟨k, hik, hkl⟩, hlj⟩ := h
      exact ⟨k, hik, l, hkl, hlj⟩

/-! Marks of a row -/

def Row.Marked (row : Row) (i : Nat) : Prop := row[i]? = some true

namespace Row

theorem Marked.lt {row : Row} {i : Nat} (h : row.Marked i) : i < row.length := (List.getElem?_eq_some_iff.mp h).1

theorem length_union {a b : Row} (h : a.length = b.length) : (a.union b).length = a.length := by
  rw [union, List.length_zipWith, ← h, Nat.min_self]

theorem marked_union {a b : Row} (h : a.length = b.length) (i : Nat) :
    (a.union b).Marked i ↔ a.Marked i ∨ b.Marked i := by
  unfold Marked union
  rw [List.getElem?_zipWith]
  by_cases hi : i < a.length
  · have hib : i < b.length := h ▸ hi
    rw [List.getElem?_eq_getElem hi, List.getElem?_eq_getElem hib]
    simp
  · have hib : b.length ≤ i := by omega
    rw [List.getElem?_eq_none (by omega), List.getElem?_eq_none hib]
    simp

theorem count_false_union_le {a b : Row} (h : a.length = b.length) : (a.union b).count false ≤ a.count false := by
  induction a generalizing b with
  | nil => simp [union]
  | cons x a ih =>
    cases b with
    | nil => cases h
    | cons y b =>
      have hrest := ih (Nat.succ.inj h)
      simp only [union] at hrest
      cases x <;> cases y <;> simp [union, List.zipWith] <;> omega

theorem count_false_union_lt {a b : Row} (h : a.length = b.length) (hne : a.union b ≠ a) :
    (a.union b).count false < a.count false := by
  induction a generalizing b with
  | nil => exact absurd (by simp [union]) hne
  | cons x a ih =>
    cases b with
    | nil => cases h
    | cons y b =>
      have hlen := Nat.succ.inj h
      have hrest := count_false_union_le hlen
      have hsame : union (x :: a) (y :: b) = (x || y) :: union a b := rfl
      rw [hsame] at hne ⊢
      by_cases hab : union a b = a
      · -- The first mark is the new one.
        rw [hab] at hne ⊢
        cases x <;> cases y <;> simp at hne ⊢
      · have hlt := ih hlen hab
        cases x <;> cases y <;> simp <;> omega

theorem contains_true_iff {row : Row} : row.contains true = true ↔ ∃ i, row.Marked i := by
  simp only [List.contains_iff_mem, List.mem_iff_getElem?, Marked]

end Row

/-! Steps of rows -/

/-- A step that takes the marks of a row along a relation. -/
structure Carries (size : Nat) (f : Row → Row) (R : Nat → Nat → Prop) : Prop where
  length : ∀ row : Row, row.length = size → (f row).length = size
  marked : ∀ row : Row, row.length = size → ∀ j, (f row).Marked j ↔ ∃ i, row.Marked i ∧ R i j

namespace Carries

variable {size : Nat} {f g : Row → Row} {R Q : Nat → Nat → Prop}

theorem seq (hf : Carries size f R) (hg : Carries size g Q) :
    Carries size (fun row => g (f row)) fun i j => ∃ k, R i k ∧ Q k j where
  length row h := hg.length _ (hf.length row h)
  marked row h j := by
    rw [hg.marked _ (hf.length row h)]
    constructor
    · intro hparts
      obtain ⟨k, hk, hkj⟩ := hparts
      obtain ⟨i, hi, hik⟩ := (hf.marked row h k).mp hk
      exact ⟨i, hi, k, hik, hkj⟩
    · intro hparts
      obtain ⟨i, hi, k, hik, hkj⟩ := hparts
      exact ⟨k, (hf.marked row h k).mpr ⟨i, hi, hik⟩, hkj⟩

theorem alt (hf : Carries size f R) (hg : Carries size g Q) :
    Carries size (fun row => (f row).union (g row)) fun i j => R i j ∨ Q i j where
  length row h := by rw [Row.length_union (by rw [hf.length row h, hg.length row h]), hf.length row h]
  marked row h j := by
    rw [Row.marked_union (by rw [hf.length row h, hg.length row h]), hf.marked row h, hg.marked row h]
    constructor
    · intro hparts
      rcases hparts with ⟨i, hi, hij⟩ | ⟨i, hi, hij⟩
      · exact ⟨i, hi, .inl hij⟩
      · exact ⟨i, hi, .inr hij⟩
    · intro hparts
      rcases hparts with ⟨i, hi, hij | hij⟩
      · exact .inl ⟨i, hi, hij⟩
      · exact .inr ⟨i, hi, hij⟩

theorem marked_of_fixed (hf : Carries size f R) {row : Row} (h : row.length = size) (hfixed : f row = row) (n j : Nat) :
    row.Marked j ↔ ∃ i, row.Marked i ∧ Chain R n i j := by
  induction n generalizing j with
  | zero => simp [Chain]
  | succ n ih =>
    have hstep := hf.marked row h
    rw [hfixed] at hstep
    rw [ih j]
    constructor
    · intro hparts
      obtain ⟨k, hk, hkj⟩ := hparts
      obtain ⟨i, hi, hik⟩ := (hstep k).mp hk
      exact ⟨i, hi, k, hik, hkj⟩
    · intro hparts
      obtain ⟨i, hi, k, hik, hkj⟩ := hparts
      exact ⟨k, (hstep k).mpr ⟨i, hi, hik⟩, hkj⟩

theorem times (hf : Carries size f R) (n : Nat) : Carries size (times f n) (Chain R n) := by
  induction n with
  | zero => exact ⟨fun _ h => h, fun row _ j => by simp [Regex.times, Chain]⟩
  | succ n ih =>
    have hseq : Carries size (fun row => Regex.times f n (f row)) (Chain R (n + 1)) := hf.seq ih
    constructor
    · intro row h
      rw [Regex.times]
      split
      · exact h
      · exact hseq.length row h
    · intro row h j
      rw [Regex.times]
      split
      · next hfixed => exact hf.marked_of_fixed h hfixed (n + 1) j
      · exact hseq.marked row h j

/-- A row that gains nothing from a step has what any number of steps reaches. -/
theorem marked_of_closed (hf : Carries size f R) {row : Row} (h : row.length = size)
    (hclosed : row.union (f row) = row) {n i j : Nat} (hi : row.Marked i) (hij : Chain R n i j) : row.Marked j := by
  induction n generalizing i with
  | zero => exact hij ▸ hi
  | succ n ih =>
    obtain ⟨k, hik, hkj⟩ := hij
    have hk : (row.union (f row)).Marked k :=
      (Row.marked_union (by rw [h, hf.length row h]) k).mpr (.inr ((hf.marked row h k).mpr ⟨i, hi, hik⟩))
    exact ih (hclosed ▸ hk) hkj

theorem next (hf : Carries size f R) : Carries size (fun row => row.union (f row)) fun i j => i = j ∨ R i j := by
  have hid : Carries size (fun row => row) fun i j => i = j := ⟨fun _ h => h, fun row _ j => by simp⟩
  exact hid.alt hf

theorem upTo (hf : Carries size f R) (n : Nat) :
    Carries size (upTo f n) fun i j => ∃ m, m ≤ n ∧ Chain R m i j := by
  induction n with
  | zero =>
    refine ⟨fun _ h => h, fun row _ j => ?_⟩
    simp only [Regex.upTo, Nat.le_zero_eq, exists_eq_left, Chain, exists_eq_right]
  | succ n ih =>
    have hseq := hf.next.seq ih
    -- One step or none, then at most `n` steps.
    have hchain (i j : Nat) : (∃ k, (i = k ∨ R i k) ∧ ∃ m, m ≤ n ∧ Chain R m k j) ↔
        ∃ m, m ≤ n + 1 ∧ Chain R m i j := by
      constructor
      · intro h
        obtain ⟨k, hik, m, hm, hkj⟩ := h
        cases hik with
        | inl heq => exact ⟨m, by omega, heq ▸ hkj⟩
        | inr hik => exact ⟨m + 1, by omega, k, hik, hkj⟩
      · intro h
        obtain ⟨m, hm, hij⟩ := h
        cases m with
        | zero => exact ⟨i, .inl rfl, 0, Nat.zero_le _, hij⟩
        | succ m =>
          obtain ⟨k, hik, hkj⟩ := hij
          exact ⟨k, .inr hik, m, by omega, hkj⟩
    constructor
    · intro row h
      simp only [Regex.upTo]
      split
      · exact h
      · exact hseq.length row h
    · intro row h j
      simp only [Regex.upTo]
      split
      · next hclosed =>
        constructor
        · intro hj
          exact ⟨j, hj, 0, Nat.zero_le _, rfl⟩
        · intro hparts
          obtain ⟨i, hi, m, -, hij⟩ := hparts
          exact hf.marked_of_closed h hclosed hi hij
      · rw [hseq.marked row h j]
        exact exists_congr fun i => and_congr_right fun _ => hchain i j

/-- As many times as a row has places without a mark, it gains all it can. -/
theorem closed_upTo (hf : Carries size f R) {n : Nat} {row : Row} (h : row.length = size) (hn : row.count false ≤ n) :
    (Regex.upTo f n row).union (f (Regex.upTo f n row)) = Regex.upTo f n row := by
  have hlen (row : Row) (h : row.length = size) : row.length = (f row).length := by rw [h, hf.length row h]
  induction n generalizing row with
  | zero =>
    simp only [Regex.upTo]
    apply Classical.byContradiction
    intro hne
    have hlt := Row.count_false_union_lt (hlen row h) hne
    omega
  | succ n ih =>
    simp only [Regex.upTo]
    split
    · next hclosed => exact hclosed
    · next hne =>
      have hlt := Row.count_false_union_lt (hlen row h) hne
      exact ih (by rw [Row.length_union (hlen row h), h]) (by omega)

theorem unlimited (hf : Carries size f R) :
    Carries size (Regex.upTo f size) fun i j => ∃ m, Chain R m i j where
  length := (hf.upTo size).length
  marked row h j := by
    have hmarked := (hf.upTo size).marked row h
    have hclosed := hf.closed_upTo h (n := size) (h ▸ List.count_le_length)
    have hlength := (hf.upTo size).length row h
    constructor
    · intro hj
      obtain ⟨i, hi, m, -, hij⟩ := (hmarked j).mp hj
      exact ⟨i, hi, m, hij⟩
    · intro hparts
      obtain ⟨i, hi, m, hij⟩ := hparts
      have hstart : (Regex.upTo f size row).Marked i := (hmarked i).mpr ⟨i, hi, 0, Nat.zero_le _, rfl⟩
      exact hf.marked_of_closed hlength hclosed hstart hij

/-- At least a number of times, and at most another; a smaller limit than the first is no limit above it. -/
theorem repeated (hf : Carries size f R) (least : Nat) (most : Option Nat) :
    Carries size (fun row => Regex.upTo f (match most with
      | some m => m - least
      | none => size) (Regex.times f least row))
      fun i j => ∃ n, least ≤ n ∧ (∀ m, most = some m → n ≤ max least m) ∧ Chain R n i j := by
  have hsplit (Q : Nat → Prop) (i j : Nat) :
      (∃ k, Chain R least i k ∧ ∃ m, Q m ∧ Chain R m k j) ↔ ∃ m, Q m ∧ Chain R (least + m) i j := by
    constructor
    · intro hparts
      obtain ⟨k, hik, m, hm, hkj⟩ := hparts
      exact ⟨m, hm, Chain.add.mpr ⟨k, hik, hkj⟩⟩
    · intro hparts
      obtain ⟨m, hm, hij⟩ := hparts
      obtain ⟨k, hik, hkj⟩ := Chain.add.mp hij
      exact ⟨k, hik, m, hm, hkj⟩
  have hcount (Q : Nat → Prop) (i j : Nat) :
      (∃ m, Q m ∧ Chain R (least + m) i j) ↔ ∃ n, least ≤ n ∧ Q (n - least) ∧ Chain R n i j := by
    constructor
    · intro hparts
      obtain ⟨m, hm, hij⟩ := hparts
      exact ⟨least + m, Nat.le_add_right _ _, by rwa [Nat.add_sub_cancel_left], hij⟩
    · intro hparts
      obtain ⟨n, hn, hm, hij⟩ := hparts
      exact ⟨n - least, hm, by rwa [Nat.add_sub_cancel' hn]⟩
  cases most with
  | none =>
    have hcarries := (hf.times least).seq hf.unlimited
    refine ⟨hcarries.length, fun row h j => (hcarries.marked row h j).trans ?_⟩
    refine exists_congr fun i => and_congr_right fun _ => ?_
    have heq := (hsplit (fun _ => True) i j).trans (hcount (fun _ => True) i j)
    simpa using heq
  | some m =>
    have hcarries := (hf.times least).seq (hf.upTo (m - least))
    refine ⟨hcarries.length, fun row h j => (hcarries.marked row h j).trans ?_⟩
    refine exists_congr fun i => and_congr_right fun _ => ?_
    rw [(hsplit (· ≤ m - least) i j).trans (hcount (· ≤ m - least) i j)]
    refine exists_congr fun n => and_congr_right fun hn => and_congr_left fun _ => ?_
    simp only [Option.some.injEq, forall_eq']
    omega

end Carries

end RepoConventions.Regex
