import RepoConventions.Proofs.Regex.Reach
import RepoConventions.Proofs.Text.Folding
import RepoConventions.Regex.Reader

/-!
# Expressions of many parts

Where each part of a sequence takes pieces of a kind, wherever these stand, the sequence takes the texts that fall into
such pieces in turn. The text of a sequence is read part by part.
-/

namespace RepoConventions.Regex

/-- From wherever it begins, the expression spans the pieces of a kind and nothing else. -/
def TakesPieces (r : Regex) (takes : List Char → Prop) : Prop :=
  ∀ (passed rest : List Char) (k : Nat), Spans (passed ++ rest) r passed.length k ↔
    ∃ piece after, rest = piece ++ after ∧ takes piece ∧ k = (passed ++ piece).length

/-- A text falls into pieces for the members of a list, in turn. -/
inductive InPieces {α : Type} (takes : α → List Char → Prop) : List α → List Char → Prop
  | nil : InPieces takes [] []
  | cons {t : α} {ts : List α} {piece rest : List Char} (htake : takes t piece) (hrest : InPieces takes ts rest) :
    InPieces takes (t :: ts) (piece ++ rest)

section Pieces

variable {α : Type} {takes : α → List Char → Prop}

theorem inPieces_nil_iff {s : List Char} : InPieces takes [] s ↔ s = [] := by
  constructor
  · intro h
    cases h
    rfl
  · intro heq
    subst heq
    exact .nil

theorem inPieces_cons_iff {t : α} {ts : List α} {s : List Char} :
    InPieces takes (t :: ts) s ↔ ∃ piece rest, s = piece ++ rest ∧ takes t piece ∧ InPieces takes ts rest := by
  constructor
  · intro h
    cases h with
    | cons htake hrest => exact ⟨_, _, rfl, htake, hrest⟩
  · intro hparts
    obtain ⟨piece, rest, rfl, htake, hrest⟩ := hparts
    exact .cons htake hrest

theorem inPieces_append_iff {ts us : List α} {s : List Char} :
    InPieces takes (ts ++ us) s ↔ ∃ first last, s = first ++ last ∧ InPieces takes ts first ∧ InPieces takes us last := by
  induction ts generalizing s with
  | nil =>
    simp only [List.nil_append, inPieces_nil_iff]
    constructor
    · intro h
      exact ⟨[], s, rfl, rfl, h⟩
    · intro h
      obtain ⟨first, last, rfl, rfl, hlast⟩ := h
      exact hlast
  | cons t ts ih =>
    simp only [List.cons_append, inPieces_cons_iff, ih]
    constructor
    · intro h
      obtain ⟨piece, rest, rfl, htake, first, last, rfl, hts, hus⟩ := h
      exact ⟨piece ++ first, last, (List.append_assoc piece first last).symm, ⟨piece, first, rfl, htake, hts⟩, hus⟩
    · intro h
      obtain ⟨first, last, rfl, ⟨piece, rest, rfl, htake, hts⟩, hus⟩ := h
      exact ⟨piece, rest ++ last, List.append_assoc piece rest last, htake, rest, last, rfl, hts, hus⟩

end Pieces

/-! Parts -/

theorem TakesPieces.congr {r : Regex} {takes takes' : List Char → Prop} (h : TakesPieces r takes)
    (hiff : ∀ piece, takes piece ↔ takes' piece) : TakesPieces r takes' := by
  intro passed rest k
  rw [h passed rest k]
  simp only [hiff]

theorem takesPieces_single {r : Regex} {p : Char → Bool} (hr : ∀ s, Spans s r = Takes p s) :
    TakesPieces r fun piece => ∃ c, piece = [c] ∧ p c = true := by
  intro passed rest k
  rw [hr, takes_append_iff]
  constructor
  · intro h
    obtain ⟨c, after, hrest, hc, hk⟩ := h
    exact ⟨[c], after, hrest, ⟨c, rfl, hc⟩, hk⟩
  · intro h
    obtain ⟨piece, after, hrest, ⟨c, rfl, hc⟩, hk⟩ := h
    exact ⟨c, after, hrest, hc, hk⟩

theorem takesPieces_repeated {r : Regex} {p : Char → Bool} (hr : ∀ s, Spans s r = Takes p s) (least : Nat) :
    TakesPieces (.repeated r least none) fun piece => least ≤ piece.length ∧ ∀ c ∈ piece, p c = true := by
  intro passed rest k
  rw [spans_repeated_iff (hr _)]
  simp only [and_assoc]

theorem variants_contains_iff {c d : Char} :
    (Folding.simple.variants d.toNat).contains c.toNat = true ↔ Text.sameFold c d = true := by
  rw [List.contains_iff_mem, Folding.variants, Text.mem_orbit_iff, Text.sameFold, decide_eq_true_iff]

theorem takesPieces_literal (c : Char) :
    TakesPieces (.literal .simple c) fun piece => ∃ d, piece = [d] ∧ Text.sameFold c d = true := by
  have hsingle : TakesPieces (.literal .simple c) _ := takesPieces_single fun _ => rfl
  refine hsingle.congr fun piece => ?_
  simp only [variants_contains_iff]

/-- The parts of a sequence take the pieces of a text in turn, and what comes after them takes the rest. -/
theorem spansAll_map_append_iff {α : Type} {regex : α → Regex} {takes : α → List Char → Prop}
    (hregex : ∀ t, TakesPieces (regex t) (takes t)) (ts : List α) (rs : List Regex) (passed rest : List Char) (k : Nat) :
    SpansAll (passed ++ rest) (ts.map regex ++ rs) passed.length k ↔
      ∃ piece after, rest = piece ++ after ∧ InPieces takes ts piece ∧
        SpansAll (passed ++ piece ++ after) rs (passed ++ piece).length k := by
  induction ts generalizing passed rest with
  | nil =>
    simp only [List.map_nil, List.nil_append, inPieces_nil_iff]
    constructor
    · intro h
      exact ⟨[], rest, rfl, rfl, by rwa [List.append_nil]⟩
    · intro h
      obtain ⟨piece, after, rfl, rfl, hafter⟩ := h
      rwa [List.append_nil] at hafter
  | cons t ts ih =>
    rw [List.map_cons, List.cons_append, SpansAll]
    simp only [hregex t passed rest, inPieces_cons_iff]
    constructor
    · intro h
      obtain ⟨j, ⟨piece, after, rfl, htake, rfl⟩, hafter⟩ := h
      rw [← List.append_assoc, ih] at hafter
      obtain ⟨pieces, last, rfl, hpieces, hlast⟩ := hafter
      rw [List.append_assoc passed piece pieces] at hlast
      exact ⟨piece ++ pieces, last, (List.append_assoc piece pieces last).symm, ⟨piece, pieces, rfl, htake, hpieces⟩, hlast⟩
    · intro h
      obtain ⟨_, last, rfl, ⟨piece, pieces, rfl, htake, hpieces⟩, hlast⟩ := h
      refine ⟨_, ⟨piece, pieces ++ last, List.append_assoc piece pieces last, htake, rfl⟩, ?_⟩
      rw [List.append_assoc piece, ← List.append_assoc passed, ih]
      refine ⟨pieces, last, rfl, hpieces, ?_⟩
      rwa [List.append_assoc passed piece pieces]

theorem spansAll_toEnd_iff {α : Type} {regex : α → Regex} {takes : α → List Char → Prop}
    (hregex : ∀ t, TakesPieces (regex t) (takes t)) (ts : List α) (passed rest : List Char) :
    (∃ j, SpansAll (passed ++ rest) (ts.map regex ++ [.look .textEnd]) passed.length j) ↔ InPieces takes ts rest := by
  simp only [spansAll_map_append_iff hregex, SpansAll, Spans, Look.holds]
  constructor
  · intro h
    obtain ⟨j, piece, after, rfl, hpieces, k, ⟨-, hend⟩, -⟩ := h
    rw [List.getElem?_append_right (Nat.le_refl _), Nat.sub_self, Option.isNone_iff_eq_none,
      List.getElem?_eq_none_iff, Nat.le_zero, List.length_eq_zero_iff] at hend
    rwa [hend, List.append_nil]
  · intro h
    refine ⟨_, rest, [], (List.append_nil rest).symm, h, _, ⟨rfl, ?_⟩, rfl⟩
    rw [List.append_nil, List.getElem?_eq_none (Nat.le_refl _)]
    rfl

theorem occursIn_whole_iff {α : Type} {regex : α → Regex} {takes : α → List Char → Prop}
    (hregex : ∀ t, TakesPieces (regex t) (takes t)) (ts : List α) (text : String) :
    (ofSequence (.look .textStart :: (ts.map regex ++ [.look .textEnd]))).occursIn text = true ↔
      InPieces takes ts text.toList := by
  rw [occursIn_iff, ← spansAll_toEnd_iff hregex ts [] text.toList]
  simp only [spans_ofSequence, SpansAll, Spans, List.nil_append, List.length_nil]
  constructor
  · intro h
    obtain ⟨i, j, hi, k, ⟨rfl, hstart⟩, hrest⟩ := h
    cases i with
    | zero => exact ⟨j, hrest⟩
    | succ i =>
      rw [charBefore, if_neg (Nat.succ_ne_zero i), Nat.add_sub_cancel, List.getElem?_eq_getElem hi] at hstart
      cases hstart
  · intro h
    obtain ⟨j, hrest⟩ := h
    exact ⟨0, j, Nat.zero_le _, 0, ⟨rfl, rfl⟩, hrest⟩

/-- An expression of many parts occurs in a text where some part of the text falls into pieces that they take. -/
theorem occursIn_sequence_iff {α : Type} {regex : α → Regex} {takes : α → List Char → Prop}
    (hregex : ∀ t, TakesPieces (regex t) (takes t)) (ts : List α) (text : String) :
    (ofSequence (ts.map regex)).occursIn text = true ↔
      ∃ before part after, text.toList = before ++ part ++ after ∧ InPieces takes ts part := by
  rw [occursIn_iff]
  simp only [spans_ofSequence]
  constructor
  · intro h
    obtain ⟨i, j, hi, hspans⟩ := h
    have hlength : (text.toList.take i).length = i := List.length_take_of_le hi
    have hpieces := spansAll_map_append_iff hregex ts [] (text.toList.take i) (text.toList.drop i) j
    rw [List.take_append_drop, List.append_nil, hlength] at hpieces
    obtain ⟨piece, after, hdrop, hpiece, -⟩ := hpieces.mp hspans
    refine ⟨text.toList.take i, piece, after, ?_, hpiece⟩
    rw [List.append_assoc, ← hdrop, List.take_append_drop]
  · intro h
    obtain ⟨before, part, after, htext, hpart⟩ := h
    refine ⟨before.length, (before ++ part).length, ?_, ?_⟩
    · simp [htext]
    · have hpieces := spansAll_map_append_iff hregex ts [] before (part ++ after) (before ++ part).length
      rw [List.append_nil, ← List.append_assoc, ← htext] at hpieces
      exact hpieces.mpr ⟨part, after, rfl, hpart, rfl⟩

/-! Reading -/

/-- A text that no mark of preference begins is read as one more part of the sequence, whatever follows it. -/
def ReadsAs (f : Flags) (text : List Char) (r : Regex) : Prop :=
  ∀ (fuel : Nat) (p : Progress) (rest : List Char), p.flags = f → dropLazy rest = rest →
    ∃ left, fuel ≤ left ∧ rest? (fuel + text.length) p (text ++ rest) = rest? left (p.push r) rest

theorem escape?_of_isMeta {c : Char} (h : isMeta c = true) (f : Flags) (rest : List Char) :
    escape? f (c :: rest) = some (.literal c false, rest) := by
  simp only [isMeta, List.contains_iff_mem, List.mem_cons, List.not_mem_nil, or_false] at h
  rcases h with rfl | rfl | rfl | rfl | rfl | rfl | rfl | rfl | rfl | rfl | rfl | rfl | rfl | rfl | rfl | rfl | rfl | rfl
    <;> rfl

theorem ne_of_not_isMeta {c d : Char} (hc : isMeta c = false) (hd : isMeta d = true) : c ≠ d := by
  intro heq
  subst heq
  rw [hc] at hd
  cases hd

theorem escaped_cases (c : Char) :
    isMeta c = true ∧ escaped [c] = ['\\', c] ∨ isMeta c = false ∧ escaped [c] = [c] := by
  cases h : isMeta c with
  | true => exact .inl ⟨rfl, by simp [escaped, h]⟩
  | false => exact .inr ⟨rfl, by simp [escaped, h]⟩

theorem rest?_of_not_isMeta {c : Char} (h : isMeta c = false) (fuel : Nat) (p : Progress)
    (hverbose : p.flags.verbose = false) (rest : List Char) :
    rest? (fuel + 1) p (c :: rest) = rest? fuel (p.push (.literal p.flags.folding c)) rest := by
  rw [rest?]
  simp only [hverbose, skip, Bool.false_eq_true, if_false]
  split
  case h_13 => rfl
  all_goals cases h

theorem rest?_of_isMeta {c : Char} (h : isMeta c = true) (fuel : Nat) (p : Progress)
    (hverbose : p.flags.verbose = false) (rest : List Char) :
    rest? (fuel + 1) p ('\\' :: c :: rest) = rest? fuel (p.push (.literal p.flags.folding c)) rest := by
  rw [rest?]
  simp only [hverbose, skip, Bool.false_eq_true, if_false, escape?_of_isMeta h]
  rfl

theorem readsAs_escaped {f : Flags} (hverbose : f.verbose = false) (c : Char) :
    ReadsAs f (escaped [c]) (.literal f.folding c) := by
  intro fuel p rest hf _
  subst hf
  rcases escaped_cases c with ⟨hmeta, htext⟩ | ⟨hplain, htext⟩
  · rw [htext]
    exact ⟨fuel + 1, Nat.le_succ fuel, rest?_of_isMeta hmeta (fuel + 1) p hverbose rest⟩
  · rw [htext]
    exact ⟨fuel, Nat.le_refl fuel, rest?_of_not_isMeta hplain fuel p hverbose rest⟩

/-- No escaped character begins with the mark of a repetition that prefers few. -/
theorem dropLazy_escaped (c : Char) (rest : List Char) : dropLazy (escaped [c] ++ rest) = escaped [c] ++ rest := by
  rcases escaped_cases c with ⟨-, htext⟩ | ⟨hplain, htext⟩
  · rw [htext]
    rfl
  · rw [htext]
    unfold dropLazy
    split
    · next hcons => exact absurd (List.cons.inj hcons).1 (ne_of_not_isMeta hplain rfl)
    · rfl

/-- A progress to which parts were added in turn. -/
def Progress.pushAll (p : Progress) (rs : List Regex) : Progress := rs.foldl Progress.push p

namespace Progress

variable (p : Progress)

theorem pushAll_concat (rs : List Regex) (r : Regex) : p.pushAll (rs ++ [r]) = (p.pushAll rs).push r := by
  rw [pushAll, List.foldl_append]
  rfl

theorem pushAll_eq (rs : List Regex) :
    p.pushAll rs = { p with items := (rs.map fun r => ⟨r, true⟩).reverse ++ p.items } := by
  induction rs generalizing p with
  | nil => rfl
  | cons r rs ih =>
    have hstep : p.pushAll (r :: rs) = (p.push r).pushAll rs := rfl
    rw [hstep, ih]
    simp [push]

theorem finish_pushAll (hbranches : p.branches = []) (rs : List Regex) :
    (p.pushAll rs).finish = ofSequence (p.items.reverse.map (·.regex) ++ rs) := by
  have hitems : (rs.map fun r => (⟨r, true⟩ : Item)).map (·.regex) = rs := by simp [Function.comp_def]
  rw [pushAll_eq, finish, branch]
  simp only [List.reverse_append, List.reverse_reverse, List.map_append, hitems, hbranches]
  rfl

end Progress

theorem rest?_end {p : Progress} (hgroup : p.inGroup = false) (hbranches : p.branches = []) (rs : List Regex)
    (fuel : Nat) :
    rest? (fuel + 1) (p.pushAll rs) [] = some (ofSequence (p.items.reverse.map (·.regex) ++ rs), p.names, []) := by
  have hskip : skip p.flags.verbose [] = [] := by
    cases p.flags.verbose <;> rfl
  rw [← p.finish_pushAll hbranches, Progress.pushAll_eq, rest?]
  simp only [hskip, hgroup]
  rfl

theorem rest?_texts {α : Type} {f : Flags} {text : α → List Char} {regex : α → Regex}
    (hreads : ∀ t, ReadsAs f (text t) (regex t)) (hstart : ∀ t rest, dropLazy (text t ++ rest) = text t ++ rest)
    (ts : List α) (fuel : Nat) (p : Progress) {rest : List Char} (hf : p.flags = f) (hrest : dropLazy rest = rest) :
    ∃ left, fuel ≤ left ∧ rest? (fuel + (ts.flatMap text).length) p (ts.flatMap text ++ rest) =
      rest? left (p.pushAll (ts.map regex)) rest := by
  induction ts generalizing fuel p with
  | nil => exact ⟨fuel, Nat.le_refl fuel, rfl⟩
  | cons t ts ih =>
    have hnext : dropLazy (ts.flatMap text ++ rest) = ts.flatMap text ++ rest := by
      cases ts with
      | nil => exact hrest
      | cons u us => rw [List.flatMap_cons, List.append_assoc, hstart]
    rw [List.flatMap_cons, List.append_assoc, List.length_append, Nat.add_comm (text t).length, ← Nat.add_assoc]
    obtain ⟨between, hle, hfirst⟩ := hreads t (fuel + (ts.flatMap text).length) p _ hf hnext
    -- What the first part leaves over is fuel for the others.
    obtain ⟨spare, rfl⟩ := Nat.exists_eq_add_of_le hle
    have hfuel : fuel + (ts.flatMap text).length + spare = fuel + spare + (ts.flatMap text).length := by omega
    obtain ⟨left, hleft, hlater⟩ := ih (fuel + spare) (p.push (regex t)) hf
    rw [hfuel, hlater] at hfirst
    exact ⟨left, by omega, hfirst⟩

/-- A text that is written part by part is read as the sequence of its parts. -/
theorem ofText?_flatMap {α : Type} {f : Flags} {text : α → List Char} {regex : α → Regex}
    (hreads : ∀ t, ReadsAs f (text t) (regex t)) (hstart : ∀ t rest, dropLazy (text t ++ rest) = text t ++ rest)
    (hnesting : ∀ t b, (regex t).nesting b < nestingLimit) (ts : List α) :
    ofText? f (.ofList (ts.flatMap text)) = some (ofSequence (ts.map regex)) := by
  have hlimit : (ofSequence (ts.map regex)).nesting .nothing ≤ nestingLimit := by
    refine nesting_ofSequence_le (n := nestingLimit - 1) (fun r hr b => ?_) .nothing
    obtain ⟨t, -, rfl⟩ := List.mem_map.mp hr
    exact Nat.le_sub_one_of_lt (hnesting t b)
  let start : Progress := ⟨f, [], false, [], []⟩
  obtain ⟨left, hleft, hread⟩ := rest?_texts hreads hstart ts 1 start rfl (rfl : dropLazy [] = [])
  obtain ⟨left, rfl⟩ := Nat.exists_eq_add_of_le' hleft
  rw [List.append_nil, rest?_end rfl rfl] at hread
  rw [ofText?, String.toList_ofList, Nat.add_comm _ 1, hread]
  exact if_pos hlimit

end RepoConventions.Regex
