import Mathlib.Data.List.Infix
import RepoConventions.Files.OsText

/-!
# Names as texts

Any octets without a zero are written as one text, and from the text they are read back. What is shown of a text without
stray octets is the text itself, and what is shown of a path is what is shown of the names in it.
-/

namespace RepoConventions.Files.OsText

/-! Octets of a character -/

theorem le_of_mem_tail_utf8EncodeChar {c : Char} {o : UInt8} (h : o ∈ (String.utf8EncodeChar c).tail) : 0x80 ≤ o := by
  have hlow (n : Nat) (hn : n < 128) : (0x80 : UInt8) ≤ UInt8.ofNat (n + 128) := by
    have hsize : n + 128 < UInt8.size := Nat.add_lt_add_right hn 128
    rw [UInt8.le_iff_toNat_le, UInt8.toNat_ofNat_of_lt' hsize]
    exact Nat.le_add_left 128 n
  rw [String.utf8EncodeChar.eq_1] at h
  split at h
  · simp at h
  split at h
  · obtain rfl : o = _ := by simpa only [List.tail_cons, List.mem_singleton] using h
    exact hlow _ (by omega)
  split at h
  · simp only [List.tail_cons, List.mem_cons, List.not_mem_nil, or_false] at h
    obtain rfl | rfl := h <;> exact hlow _ (by omega)
  · simp only [List.tail_cons, List.mem_cons, List.not_mem_nil, or_false] at h
    obtain rfl | rfl | rfl := h <;> exact hlow _ (by omega)

theorem utf8EncodeChar_ne_nil (c : Char) : String.utf8EncodeChar c ≠ [] := by
  have hlength := String.length_utf8EncodeChar c
  intro h
  rw [h] at hlength
  exact absurd hlength.symm c.utf8Size_pos.ne'

theorem toNat_ofNat {n : Nat} (hn : n < 256) : (Char.ofNat n).toNat = n := by
  have hvalid : n.isValidChar := .inl (Nat.lt_trans hn (by decide))
  rw [Char.ofNat, dif_pos hvalid]
  rfl

theorem utf8EncodeChar_ofNat {n : Nat} (hn : n < 128) : String.utf8EncodeChar (Char.ofNat n) = [UInt8.ofNat n] := by
  have hval : (Char.ofNat n).val.toNat = n := toNat_ofNat (Nat.lt_trans hn (by decide))
  rw [String.utf8EncodeChar.eq_1, hval, if_pos (Nat.le_of_lt_succ hn)]

theorem eq_mark_of_zero_mem {c : Char} (h : 0 ∈ String.utf8EncodeChar c) : c = mark := by
  have hhigh (n : Nat) (hpos : 0 < n) (hsize : n < 256) : (0 : UInt8) ≠ UInt8.ofNat n := by
    intro heq
    have hnat := congrArg UInt8.toNat heq
    rw [UInt8.toNat_ofNat_of_lt' hsize] at hnat
    exact absurd hnat hpos.ne
  rcases hoctets : String.utf8EncodeChar c with _ | ⟨first, rest⟩
  · exact absurd hoctets (utf8EncodeChar_ne_nil c)
  have hrest : 0 ∉ rest := by
    intro hmem
    have htail : 0 ∈ (String.utf8EncodeChar c).tail := by rw [hoctets]; exact hmem
    exact absurd (le_of_mem_tail_utf8EncodeChar htail) (by decide)
  obtain rfl : 0 = first := by simpa [hoctets, hrest] using h
  rw [String.utf8EncodeChar.eq_1] at hoctets
  split at hoctets
  · next hsmall =>
    by_cases hzero : c.val.toNat = 0
    · exact Char.ext (UInt32.toNat_inj.mp hzero)
    · exact absurd (List.cons.inj hoctets).1.symm (hhigh _ (by omega) (by omega))
  split at hoctets
  · exact absurd (List.cons.inj hoctets).1.symm (hhigh _ (by omega) (by omega))
  split at hoctets
  · exact absurd (List.cons.inj hoctets).1.symm (hhigh _ (by omega) (by omega))
  · exact absurd (List.cons.inj hoctets).1.symm (hhigh _ (by omega) (by omega))

/-! The first piece -/

theorem firstPiece_eq_char_iff (os : List UInt8) (c : Char) :
    firstPiece os = .char c ↔ String.utf8EncodeChar c <+: os := by
  have hsize : (String.utf8EncodeChar c).length ≤ 4 := by
    rw [String.length_utf8EncodeChar]
    exact c.utf8Size_le_four
  have hdecode : firstPiece os = .char c ↔ (os.take 4).toByteArray.utf8DecodeChar? 0 = some c := by
    unfold firstPiece
    split <;> simp_all
  rw [hdecode]
  constructor
  · intro h
    obtain ⟨rest, hrest⟩ := ByteArray.exists_of_utf8DecodeChar?_eq_some h
    have hlist : os.take 4 = String.utf8EncodeChar c ++ rest.data.toList := by
      rw [← List.toByteArray_inj, hrest, List.toByteArray_append]
      congr 1
      apply ByteArray.ext
      simp
    exact ⟨rest.data.toList ++ os.drop 4, by rw [← List.append_assoc, ← hlist, List.take_append_drop]⟩
  · rintro ⟨rest, rfl⟩
    rw [List.take_append, List.take_of_length_le hsize, List.toByteArray_append]
    exact ByteArray.utf8DecodeChar?_utf8EncodeChar_append

theorem firstPiece_utf8EncodeChar (c : Char) (rest : List UInt8) :
    firstPiece (String.utf8EncodeChar c ++ rest) = .char c :=
  (firstPiece_eq_char_iff _ _).mpr (List.prefix_append _ _)

theorem firstPiece_of_not_char {os : List UInt8} (h : ∀ c, ¬ String.utf8EncodeChar c <+: os) :
    firstPiece os = .broken (os.take (brokenSize os)) := by
  cases hpiece : firstPiece os with
  | char c => exact absurd ((firstPiece_eq_char_iff os c).mp hpiece) (h c)
  | broken bs =>
    unfold firstPiece at hpiece
    split at hpiece
    · cases hpiece
    · exact hpiece.symm

theorem firstPiece_cases (os : List UInt8) :
    (∃ c rest, os = String.utf8EncodeChar c ++ rest ∧ firstPiece os = .char c) ∨
      ((∀ c, ¬ String.utf8EncodeChar c <+: os) ∧ firstPiece os = .broken (os.take (brokenSize os))) := by
  by_cases h : ∃ c, String.utf8EncodeChar c <+: os
  · obtain ⟨c, rest, rfl⟩ := h
    exact .inl ⟨c, rest, rfl, firstPiece_utf8EncodeChar c rest⟩
  · have hnot := not_exists.mp h
    exact .inr ⟨hnot, firstPiece_of_not_char hnot⟩

theorem brokenSize_pos (os : List UInt8) : 0 < brokenSize os := by
  unfold brokenSize
  repeat' split
  all_goals decide

theorem exists_append_firstPiece {os : List UInt8} (h : os ≠ []) :
    (firstPiece os).octets ≠ [] ∧ ∃ rest, os = (firstPiece os).octets ++ rest := by
  obtain ⟨c, rest, rfl, hpiece⟩ | ⟨-, hpiece⟩ := firstPiece_cases os <;> rw [hpiece]
  · exact ⟨utf8EncodeChar_ne_nil c, rest, rfl⟩
  · refine ⟨?_, os.drop (brokenSize os), (List.take_append_drop _ _).symm⟩
    have hpos := brokenSize_pos os
    simp only [Piece.octets, ne_eq, List.take_eq_nil_iff, h, or_false]
    omega

/-! All pieces -/

theorem piecesFrom_append (os rest : List UInt8) : piecesFrom os.length (os ++ rest) = pieces rest := by
  induction os with
  | nil =>
    cases rest <;> rfl
  | cons o os ih => exact ih

theorem pieces_eq {os : List UInt8} (h : os ≠ []) {rest : List UInt8} (hos : os = (firstPiece os).octets ++ rest) :
    pieces os = firstPiece os :: pieces rest := by
  obtain ⟨o, more, rfl⟩ := List.exists_cons_of_ne_nil h
  have hne := (exists_append_firstPiece h).1
  generalize hp : firstPiece (o :: more) = p at hos hne
  obtain ⟨first, others, hoctets⟩ := List.exists_cons_of_ne_nil hne
  rw [hoctets, List.cons_append] at hos
  obtain ⟨rfl, rfl⟩ := List.cons.inj hos
  have hrest : pieces (o :: (others ++ rest)) = p :: piecesFrom (p.octets.length - 1) (others ++ rest) := by
    rw [pieces, piecesFrom, hp]
  rw [hrest, hoctets, List.length_cons, Nat.add_sub_cancel, piecesFrom_append]

/-- What holds of no octets, and of octets when it holds of those after their first piece, holds of all octets. -/
theorem pieces_induction {P : List UInt8 → List Piece → Prop} (hnil : P [] [])
    (hcons : ∀ os rest, os ≠ [] → os = (firstPiece os).octets ++ rest → P rest (pieces rest) →
      P os (firstPiece os :: pieces rest)) (os : List UInt8) : P os (pieces os) := by
  induction hn : os.length using Nat.strong_induction_on generalizing os with
  | _ n ih =>
    by_cases h : os = []
    · subst h
      exact hnil
    · obtain ⟨hne, rest, hos⟩ := exists_append_firstPiece h
      have hlength : os.length = (firstPiece os).octets.length + rest.length := by
        conv_lhs => rw [hos]
        exact List.length_append
      have hpos := List.length_pos_iff.mpr hne
      rw [pieces_eq h hos]
      exact hcons os rest h hos (ih rest.length (by omega) rest rfl)

theorem flatMap_octets_pieces (os : List UInt8) : (pieces os).flatMap Piece.octets = os := by
  refine pieces_induction (P := fun os ps => ps.flatMap Piece.octets = os) rfl ?_ os
  intro os rest _ hos ih
  rw [List.flatMap_cons, ih]
  exact hos.symm

theorem pieces_utf8EncodeChar (c : Char) (rest : List UInt8) :
    pieces (String.utf8EncodeChar c ++ rest) = .char c :: pieces rest := by
  have hpiece := firstPiece_utf8EncodeChar c rest
  rw [pieces_eq (List.append_ne_nil_of_left_ne_nil (utf8EncodeChar_ne_nil c) rest) (by rw [hpiece]; rfl), hpiece]

theorem pieces_flatMap_utf8EncodeChar (cs : List Char) :
    pieces (cs.flatMap String.utf8EncodeChar) = cs.map .char := by
  induction cs with
  | nil => rfl
  | cons c cs ih => rw [List.flatMap_cons, pieces_utf8EncodeChar, ih, List.map_cons]

theorem le_of_isFollower {o : UInt8} (h : isFollower o = true) : 0x80 ≤ o := by
  rw [isFollower, Bool.and_eq_true, decide_eq_true_eq] at h
  exact h.1

theorem le_of_beginWith {first second : UInt8} (h : beginWith first second = true) : 0x80 ≤ second := by
  rw [beginWith, Bool.and_eq_true] at h
  exact le_of_isFollower h.1

theorem le_of_not_char {first : UInt8} {rest : List UInt8}
    (h : ∀ c, ¬ String.utf8EncodeChar c <+: first :: rest) : 0x80 ≤ first := by
  by_contra hlow
  have hlt : first.toNat < 128 := by simpa [UInt8.le_iff_toNat_le] using hlow
  refine h (Char.ofNat first.toNat) ⟨rest, ?_⟩
  rw [utf8EncodeChar_ofNat hlt, UInt8.ofNat_toNat]
  rfl

theorem le_of_mem_take_brokenSize {os : List UInt8} (h : ∀ c, ¬ String.utf8EncodeChar c <+: os) {o : UInt8}
    (ho : o ∈ os.take (brokenSize os)) : 0x80 ≤ o := by
  match os with
  | [] => simp at ho
  | [first] =>
    obtain rfl : o = first := by simpa [brokenSize] using ho
    exact le_of_not_char h
  | first :: second :: rest =>
    have hfirst : 0x80 ≤ first := le_of_not_char h
    simp only [brokenSize] at ho
    split at ho
    · obtain rfl : o = first := by simpa using ho
      exact hfirst
    next hbegin =>
    have hsecond : 0x80 ≤ second := by
      rw [Bool.or_eq_true, not_or, Bool.not_eq_true', Bool.not_eq_false] at hbegin
      exact le_of_beginWith hbegin.2
    have htwo (hmem : o ∈ (first :: second :: rest).take 2) : 0x80 ≤ o := by
      obtain rfl | rfl : o = first ∨ o = second := by simpa using hmem
      · exact hfirst
      · exact hsecond
    split at ho
    · next third _ =>
      split at ho
      · next hthird =>
        rw [Bool.and_eq_true] at hthird
        obtain rfl | rfl | rfl : o = first ∨ o = second ∨ o = third := by simpa using ho
        · exact hfirst
        · exact hsecond
        · exact le_of_isFollower hthird.2
      · exact htwo ho
    · exact htwo ho

theorem le_of_mem_broken {os bs : List UInt8} (h : .broken bs ∈ pieces os) {o : UInt8} (ho : o ∈ bs) : 0x80 ≤ o := by
  revert h
  refine pieces_induction (P := fun _ ps => .broken bs ∈ ps → 0x80 ≤ o) (by simp) ?_ os
  intro os rest _ _ ih hmem
  rcases List.mem_cons.mp hmem with hfirst | hrest
  · obtain ⟨c, _, _, hpiece⟩ | ⟨hnot, hpiece⟩ := firstPiece_cases os
    · rw [hpiece] at hfirst
      cases hfirst
    · rw [hpiece] at hfirst
      cases hfirst
      exact le_of_mem_take_brokenSize hnot ho
  · exact ih hrest

/-! Slashes -/

def slashOctet : UInt8 := 0x2F

theorem firstPiece_append_slash {os : List UInt8} (h : os ≠ []) (rest : List UInt8) :
    firstPiece (os ++ slashOctet :: rest) = firstPiece os := by
  obtain ⟨c, more, hos, hpiece⟩ | ⟨hnot, hpiece⟩ := firstPiece_cases (os ++ slashOctet :: rest)
  · rw [hpiece]
    symm
    rw [firstPiece_eq_char_iff]
    have hchar : String.utf8EncodeChar c <+: os ++ slashOctet :: rest := ⟨more, hos.symm⟩
    obtain hshorter | ⟨tail, htail⟩ := List.prefix_or_prefix_of_prefix hchar (List.prefix_append os _)
    · exact hshorter
    -- otherwise the slash would be an octet of the character, after its first
    · obtain ⟨o, others, rfl⟩ := List.exists_cons_of_ne_nil h
      cases tail with
      | nil => simp [← htail]
      | cons x tail =>
        rw [← htail, List.append_assoc, List.append_cancel_left_eq] at hos
        obtain rfl : slashOctet = x := (List.cons.inj hos).1
        have hmem : slashOctet ∈ (String.utf8EncodeChar c).tail := by simp [← htail]
        exact absurd (le_of_mem_tail_utf8EncodeChar hmem) (by decide)
  · have hnone : ∀ c, ¬ String.utf8EncodeChar c <+: os :=
      fun c hc => hnot c (hc.trans (List.prefix_append os _))
    have hslash (x : UInt8) : beginWith x slashOctet = false := rfl
    have hsame : (os ++ slashOctet :: rest).take (brokenSize (os ++ slashOctet :: rest)) = os.take (brokenSize os) := by
      match os with
      | [first] => simp [brokenSize, hslash]
      | [first, second] =>
        have hthird : isFollower slashOctet = false := rfl
        simp only [List.cons_append, List.nil_append, brokenSize, hthird, Bool.and_false, Bool.false_eq_true, if_false]
        split <;> rfl
      | first :: second :: third :: more =>
        simp only [List.cons_append, brokenSize]
        repeat' split
        all_goals rfl
    rw [hpiece, hsame, firstPiece_of_not_char hnone]

theorem pieces_append_slash (os rest : List UInt8) :
    pieces (os ++ slashOctet :: rest) = pieces os ++ .char '/' :: pieces rest := by
  have hslash : pieces (slashOctet :: rest) = .char '/' :: pieces rest := pieces_utf8EncodeChar '/' rest
  refine pieces_induction (P := fun os ps => pieces (os ++ slashOctet :: rest) = ps ++ .char '/' :: pieces rest)
    hslash ?_ os
  intro os more hne hos ih
  have hfirst := firstPiece_append_slash hne rest
  have happend : os ++ slashOctet :: rest =
      (firstPiece (os ++ slashOctet :: rest)).octets ++ (more ++ slashOctet :: rest) := by
    rw [hfirst, ← List.append_assoc, ← hos]
  rw [pieces_eq (List.append_ne_nil_of_left_ne_nil hne _) happend, hfirst, ih, List.cons_append]

theorem octetsOf_cons_of_ne {c : Char} (h : c ≠ mark) (rest : List Char) :
    octetsOf (c :: rest) = String.utf8EncodeChar c ++ octetsOf rest := by
  cases rest with
  | nil => simp [octetsOf]
  | cons d rest => simp [octetsOf, h]

theorem octetsOf_append {rest : List Char} (h : ∀ d ∈ rest.head?, isStray d = false) (cs : List Char) :
    octetsOf (cs ++ rest) = octetsOf cs ++ octetsOf rest := by
  induction cs using octetsOf.induct with
  | case1 c d cs hstray ih => simp [octetsOf, hstray, ih]
  | case2 c d cs hstray ih =>
    rw [List.cons_append] at ih
    simp [octetsOf, hstray, ih]
  | case3 c =>
    cases rest with
    | nil => simp [octetsOf]
    | cons d rest => simp [octetsOf, h d rfl]
  | case4 => rfl

theorem octetsOf_append_slash (cs rest : List Char) :
    octetsOf (cs ++ '/' :: rest) = octetsOf cs ++ slashOctet :: octetsOf rest := by
  have hslash : octetsOf ('/' :: rest) = slashOctet :: octetsOf rest := octetsOf_cons_of_ne (by decide) rest
  have hstray : ∀ d ∈ ('/' :: rest).head?, isStray d = false := by
    rintro d ⟨⟩
    rfl
  rw [octetsOf_append hstray, hslash]

theorem octets_append_slash (s r : String) : octets (s ++ "/" ++ r) = octets s ++ slashOctet :: octets r := by
  rw [octets, String.append_assoc, String.toList_append, String.toList_append]
  exact octetsOf_append_slash s.toList r.toList

theorem size_append_slash (s r : String) : size (s ++ "/" ++ r) = size s + 1 + size r := by
  rw [size, octets_append_slash, List.length_append, List.length_cons, size, size]
  omega

/-! Spellings -/

theorem octetsOf_of_not_mem {cs : List Char} (h : mark ∉ cs) : octetsOf cs = cs.flatMap String.utf8EncodeChar := by
  induction cs with
  | nil => rfl
  | cons c cs ih =>
    obtain ⟨hc, hcs⟩ := not_or.mp (fun hmem => h (List.mem_cons.mpr hmem))
    rw [octetsOf_cons_of_ne (Ne.symm hc), ih hcs, List.flatMap_cons]

theorem octetsOf_mark (o : UInt8) (ho : 0x80 ≤ o) (rest : List Char) :
    octetsOf (mark :: Char.ofNat o.toNat :: rest) = o :: octetsOf rest := by
  have hlow : 128 ≤ o.toNat := by simpa [UInt8.le_iff_toNat_le] using ho
  have hhigh : o.toNat < 256 := o.toNat_lt
  have hval : (Char.ofNat o.toNat).toNat = o.toNat := toNat_ofNat hhigh
  have hstray : isStray (Char.ofNat o.toNat) = true := by
    simp only [isStray, hval, Bool.and_eq_true, decide_eq_true_eq]
    omega
  simp [octetsOf, hstray, hval]

theorem octetsOf_spelled_append {os : List UInt8} (hzero : 0 ∉ os) {p : Piece} (h : p ∈ pieces os) (rest : List Char) :
    octetsOf (p.spelled ++ rest) = p.octets ++ octetsOf rest := by
  cases p with
  | char c =>
    refine octetsOf_cons_of_ne (fun hc => hzero ?_) rest
    rw [← flatMap_octets_pieces os, List.mem_flatMap]
    exact ⟨_, h, by rw [hc]; decide⟩
  | broken bs =>
    have hlow : ∀ o ∈ bs, 0x80 ≤ o := fun o ho => le_of_mem_broken h ho
    clear h
    induction bs with
    | nil => rfl
    | cons o bs ih =>
      have hrest := ih fun x hx => hlow x (List.mem_cons_of_mem o hx)
      simp only [Piece.spelled, Piece.octets] at hrest ⊢
      rw [List.flatMap_cons, List.append_assoc, List.cons_append, List.cons_append, List.nil_append,
        octetsOf_mark o (hlow o List.mem_cons_self), hrest]
      rfl

/-- Octets are read back from the text that they are written as. -/
theorem octets_ofOctets {os : List UInt8} (h : 0 ∉ os) : octets (ofOctets os) = os := by
  have hall (ps : List Piece) (hps : ∀ p ∈ ps, p ∈ pieces os) :
      octetsOf (ps.flatMap Piece.spelled) = ps.flatMap Piece.octets := by
    induction ps with
    | nil => rfl
    | cons p ps ih =>
      rw [List.flatMap_cons, octetsOf_spelled_append h (hps p List.mem_cons_self),
        ih fun q hq => hps q (List.mem_cons_of_mem p hq), List.flatMap_cons]
  rw [octets, ofOctets, String.toList_ofList, hall _ fun _ hp => hp, flatMap_octets_pieces]

theorem ofOctets_octets_of_not_mem {s : String} (h : mark ∉ s.toList) : ofOctets (octets s) = s := by
  rw [octets, octetsOf_of_not_mem h, ofOctets, pieces_flatMap_utf8EncodeChar, List.flatMap_map]
  simp [Piece.spelled]

theorem isSpelling_iff (s : String) : isSpelling s = true ↔ 0 ∉ octets s ∧ ofOctets (octets s) = s := by
  unfold isSpelling
  split
  · simp
  · next hplain =>
    have hmark : mark ∉ s.toList := by simpa using hplain
    refine iff_of_true rfl ⟨?_, ofOctets_octets_of_not_mem hmark⟩
    rw [octets, octetsOf_of_not_mem hmark, List.mem_flatMap]
    rintro ⟨c, hc, hzero⟩
    exact hmark (eq_mark_of_zero_mem hzero ▸ hc)

/-- Octets without a zero are written as a text, and it is the only one that stands for them. -/
theorem isSpelling_and_octets_eq_iff {os : List UInt8} (h : 0 ∉ os) (s : String) :
    isSpelling s = true ∧ octets s = os ↔ s = ofOctets os := by
  rw [isSpelling_iff]
  constructor
  · rintro ⟨⟨-, hs⟩, rfl⟩
    exact hs.symm
  · rintro rfl
    rw [octets_ofOctets h]
    exact ⟨⟨h, rfl⟩, rfl⟩

theorem eq_of_octets_eq {s r : String} (hs : isSpelling s = true) (hr : isSpelling r = true)
    (h : octets s = octets r) : s = r := by
  rw [← ((isSpelling_iff s).mp hs).2, h, ((isSpelling_iff r).mp hr).2]

/-! What is shown -/

theorem shown_of_not_mem {s : String} (h : mark ∉ s.toList) : shown s = s := by
  rw [shown, octets, octetsOf_of_not_mem h, pieces_flatMap_utf8EncodeChar, List.map_map]
  have hid : Piece.shown ∘ Piece.char = id := rfl
  rw [hid, List.map_id, String.ofList_toList]

theorem shown_append_slash (s r : String) : shown (s ++ "/" ++ r) = shown s ++ "/" ++ shown r := by
  have hslash : ("/" : String).toList = ['/'] := rfl
  apply String.toList_injective
  simp only [shown, octets_append_slash, pieces_append_slash, List.map_append, List.map_cons, String.toList_append,
    String.toList_ofList, hslash, List.append_assoc, List.singleton_append]
  rfl

theorem toList_eq_flatMap_spelled {s : String} (h : isSpelling s = true) :
    s.toList = (pieces (octets s)).flatMap Piece.spelled := by
  conv_lhs => rw [← ((isSpelling_iff s).mp h).2]
  rw [ofOctets, String.toList_ofList]

theorem toList_shown (s : String) : (shown s).toList = (pieces (octets s)).map Piece.shown := by
  rw [shown, String.toList_ofList]

theorem ne_nil_of_mem_broken {os bs : List UInt8} (h : .broken bs ∈ pieces os) : bs ≠ [] := by
  revert h
  refine pieces_induction (P := fun _ ps => .broken bs ∈ ps → bs ≠ []) (by simp) ?_ os
  intro os rest hne _ ih hmem
  rcases List.mem_cons.mp hmem with hfirst | hrest
  · have hpiece := (exists_append_firstPiece hne).1
    rw [← hfirst] at hpiece
    exact hpiece
  · exact ih hrest

/-- A text of characters that are shown as they are begins what is shown just as it begins the spelling. -/
theorem prefix_toList_shown_iff {s : String} (hs : isSpelling s = true) {w : List Char}
    (hw : ∀ c ∈ w, c ≠ mark ∧ c ≠ replacement) : w <+: (shown s).toList ↔ w <+: s.toList := by
  have hbroken : ∀ bs, .broken bs ∈ pieces (octets s) → bs ≠ [] := fun bs => ne_nil_of_mem_broken
  rw [toList_shown, toList_eq_flatMap_spelled hs]
  generalize pieces (octets s) = ps at hbroken
  induction w generalizing ps with
  | nil => simp
  | cons c w ih =>
    obtain ⟨⟨hmark, hreplacement⟩, hw⟩ := List.forall_mem_cons.mp hw
    cases ps with
    | nil => simp
    | cons p ps =>
      have ih := ih hw ps fun bs hbs => hbroken bs (List.mem_cons_of_mem p hbs)
      rw [List.map_cons, List.flatMap_cons]
      cases p with
      | char d =>
        change c :: w <+: d :: ps.map Piece.shown ↔ c :: w <+: d :: ps.flatMap Piece.spelled
        rw [List.cons_prefix_cons, List.cons_prefix_cons]
        exact and_congr_right fun _ => ih
      | broken bs =>
        obtain ⟨o, bs, rfl⟩ := List.exists_cons_of_ne_nil (hbroken bs List.mem_cons_self)
        refine iff_of_false (fun h => ?_) (fun h => ?_)
        · exact hreplacement (List.cons_prefix_cons.mp h).1
        · exact hmark (List.cons_prefix_cons.mp h).1

theorem mem_of_mem_shown {s : String} (hs : isSpelling s = true) {c : Char} (hc : c ≠ replacement)
    (h : c ∈ (shown s).toList) : c ∈ s.toList := by
  rw [toList_shown, List.mem_map] at h
  obtain ⟨p, hp, rfl⟩ := h
  rw [toList_eq_flatMap_spelled hs, List.mem_flatMap]
  cases p with
  | char d => exact ⟨_, hp, List.mem_cons_self⟩
  | broken bs => exact absurd rfl hc

theorem shown_of_replacement_not_mem {s : String} (hs : isSpelling s = true) (h : replacement ∉ (shown s).toList) :
    shown s = s := by
  apply String.toList_injective
  rw [toList_shown] at h ⊢
  rw [toList_eq_flatMap_spelled hs]
  generalize pieces (octets s) = ps at h ⊢
  induction ps with
  | nil => rfl
  | cons p ps ih =>
    obtain ⟨hp, hps⟩ := not_or.mp (fun hmem => h (List.mem_cons.mpr hmem))
    cases p with
    | char c =>
      rw [List.map_cons, List.flatMap_cons, ih hps]
      rfl
    | broken bs => exact absurd rfl hp

theorem toList_shown_eq_iff {s : String} (hs : isSpelling s = true) {w : List Char}
    (hw : ∀ c ∈ w, c ≠ mark ∧ c ≠ replacement) : (shown s).toList = w ↔ s.toList = w := by
  constructor
  · intro h
    have hplain : replacement ∉ (shown s).toList := fun hmem => (hw _ (h ▸ hmem)).2 rfl
    rw [← shown_of_replacement_not_mem hs hplain, h]
  · intro h
    have hplain : mark ∉ s.toList := fun hmem => (hw _ (h ▸ hmem)).1 rfl
    rw [shown_of_not_mem hplain, h]

theorem mark_not_mem_shown {s : String} (h : isSpelling s = true) : mark ∉ (shown s).toList := by
  rw [toList_shown, List.mem_map]
  rintro ⟨p, hp, hmark⟩
  cases p with
  | char c =>
    obtain rfl : c = mark := hmark
    refine ((isSpelling_iff s).mp h).1 ?_
    rw [← flatMap_octets_pieces (octets s), List.mem_flatMap]
    exact ⟨_, hp, by decide⟩
  | broken bs =>
    have hreplacement : replacement ≠ mark := by decide
    exact hreplacement hmark

end RepoConventions.Files.OsText
