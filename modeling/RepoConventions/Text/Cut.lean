/-!
# Cutting text

Where one text occurs in another, and what stands before, between and after.
-/

namespace RepoConventions.Text

/-- The text before and after the first occurrence of `mark`. -/
def cutAt? (mark : List Char) : List Char → Option (List Char × List Char)
  | [] => if mark.isEmpty then some ([], []) else none
  | c :: cs =>
    if mark.isPrefixOf (c :: cs) then some ([], (c :: cs).drop mark.length)
    else (cutAt? mark cs).map fun (before, after) => (c :: before, after)

def occursIn (mark s : List Char) : Bool := (cutAt? mark s).isSome

theorem occursIn_iff_infix (mark s : List Char) : occursIn mark s = true ↔ mark <:+: s := by
  induction s with
  | nil => cases mark <;> simp [occursIn, cutAt?]
  | cons c cs ih =>
    rw [List.infix_cons_iff, ← ih]
    by_cases h : mark <+: c :: cs <;> simp [occursIn, cutAt?, h]

/-- The first occurrence of a mark is the one before which there is none, nor any that reaches into it. -/
theorem cutAt?_append {mark before : List Char} (hmark : mark ≠ []) (after : List Char)
    (hfirst : ∀ rest, rest <:+ before → rest ≠ [] → ¬ mark <+: rest ++ (mark ++ after)) :
    cutAt? mark (before ++ (mark ++ after)) = some (before, after) := by
  induction before with
  | nil =>
    obtain ⟨c, more, rfl⟩ := List.exists_cons_of_ne_nil hmark
    have hprefix : (c :: more).isPrefixOf (c :: (more ++ after)) = true :=
      List.isPrefixOf_iff_prefix.mpr (List.prefix_append (c :: more) after)
    simp only [List.nil_append, List.cons_append, cutAt?, hprefix, if_true]
    simp
  | cons c rest ih =>
    have hnot : mark.isPrefixOf (c :: (rest ++ (mark ++ after))) = false := by
      rw [Bool.eq_false_iff, ne_eq, List.isPrefixOf_iff_prefix]
      exact hfirst (c :: rest) (List.suffix_refl _) (List.cons_ne_nil c rest)
    have hrest := ih fun more hsuffix => hfirst more (hsuffix.trans (List.suffix_cons c rest))
    simp [cutAt?, hnot, hrest]

theorem cutAt?_of_not_infix {mark s : List Char} (h : ¬ mark <:+: s) : cutAt? mark s = none := by
  rw [← occursIn_iff_infix, occursIn] at h
  simpa using h

theorem cutAt?_singleton {c : Char} {before : List Char} (h : c ∉ before) (after : List Char) :
    cutAt? [c] (before ++ c :: after) = some (before, after) := by
  refine cutAt?_append (by simp) after fun rest hsuffix hne hprefix => ?_
  obtain ⟨d, more, rfl⟩ := List.exists_cons_of_ne_nil hne
  obtain ⟨rfl, -⟩ := List.cons_prefix_cons.mp hprefix
  exact h (hsuffix.subset List.mem_cons_self)

theorem cutAt?_pair {c d : Char} (hcd : c ≠ d) {before : List Char} (h : ¬ [c, d] <:+: before) (after : List Char) :
    cutAt? [c, d] (before ++ c :: d :: after) = some (before, after) := by
  refine cutAt?_append (by simp) after fun rest hsuffix hne hprefix => ?_
  obtain ⟨x, more, rfl⟩ := List.exists_cons_of_ne_nil hne
  obtain ⟨rfl, hmore⟩ := List.cons_prefix_cons.mp hprefix
  cases more with
  | nil => exact hcd (List.cons_prefix_cons.mp hmore).1.symm
  | cons y more =>
    obtain ⟨rfl, -⟩ := List.cons_prefix_cons.mp hmore
    exact h (List.IsInfix.trans ⟨[], more, rfl⟩ hsuffix.isInfix)

/-- Writes `by` for every occurrence of the two characters `x y`, read from the left. -/
def replacePair (x y : Char) (new : List Char) : List Char → List Char
  | a :: b :: rest =>
    if a = x && b = y then new ++ replacePair x y new rest else a :: replacePair x y new (b :: rest)
  | cs => cs

/-- The pieces between the occurrences of `c`: always one more than there are occurrences. -/
def splitOn (c : Char) : List Char → List (List Char)
  | [] => [[]]
  | d :: rest =>
    if d = c then [] :: splitOn c rest
    else match splitOn c rest with
      | [] => [[d]]
      | piece :: pieces => (d :: piece) :: pieces

theorem splitOn_ne_nil (c : Char) (s : List Char) : splitOn c s ≠ [] := by
  induction s with
  | nil => simp [splitOn]
  | cons d rest ih =>
    by_cases h : d = c
    · simp [splitOn, h]
    · cases hr : splitOn c rest <;> simp [splitOn, h, hr]

theorem splitOn_length (c : Char) (s : List Char) : (splitOn c s).length = s.count c + 1 := by
  induction s with
  | nil => rfl
  | cons d rest ih =>
    by_cases h : d = c
    · simp [splitOn, h, ih]
    · cases hr : splitOn c rest with
      | nil => exact absurd hr (splitOn_ne_nil c rest)
      | cons p ps => simp [splitOn, h, hr, ← ih]

theorem not_mem_of_mem_splitOn {c : Char} {s piece : List Char} (h : piece ∈ splitOn c s) : c ∉ piece := by
  induction s generalizing piece with
  | nil =>
    have hnil : piece = [] := by simpa [splitOn] using h
    simp [hnil]
  | cons d rest ih =>
    by_cases hd : d = c
    · simp only [splitOn, hd, if_true, List.mem_cons] at h
      obtain rfl | h := h
      · simp
      · exact ih h
    · cases hr : splitOn c rest with
      | nil => exact absurd hr (splitOn_ne_nil c rest)
      | cons first others =>
        simp only [splitOn, hd, if_false, hr, List.mem_cons] at h
        obtain rfl | h := h
        · have hfirst : c ∉ first := ih (by simp [hr])
          simp [hfirst, Ne.symm hd]
        · exact ih (by simp [hr, h])

theorem exists_splitOn_append {c d : Char} (h : d ≠ c) (s : List Char) :
    ∃ pieces last, splitOn c (s ++ [d]) = pieces ++ [last ++ [d]] := by
  induction s with
  | nil => exact ⟨[], [], by simp [splitOn, h]⟩
  | cons e rest ih =>
    obtain ⟨pieces, last, ih⟩ := ih
    by_cases he : e = c
    · exact ⟨[] :: pieces, last, by simp [splitOn, he, ih]⟩
    · cases pieces with
      | nil => exact ⟨[], e :: last, by simp [splitOn, he, ih]⟩
      | cons first pieces => exact ⟨(e :: first) :: pieces, last, by simp [splitOn, he, ih]⟩

theorem splitOn_of_not_mem {c : Char} {s : List Char} (h : c ∉ s) : splitOn c s = [s] := by
  induction s with
  | nil => rfl
  | cons d rest ih =>
    have hd : d ≠ c := fun he => h (by simp [he])
    have hrest : c ∉ rest := fun hm => h (List.mem_cons_of_mem d hm)
    simp [splitOn, hd, ih hrest]

/-- The pieces of two texts that `c` joins are those of the one and then those of the other. -/
theorem splitOn_append_cons (c : Char) (before after : List Char) :
    splitOn c (before ++ c :: after) = splitOn c before ++ splitOn c after := by
  induction before with
  | nil => simp [splitOn]
  | cons d rest ih =>
    by_cases hd : d = c
    · simp [splitOn, hd, ih]
    · cases hr : splitOn c rest with
      | nil => exact absurd hr (splitOn_ne_nil c rest)
      | cons first others => simp [splitOn, hd, ih, hr]

/-- The pieces of joined texts are the pieces of each of them. -/
theorem splitOn_intercalate_eq_flatMap (c : Char) {texts : List (List Char)} (hne : texts ≠ []) :
    splitOn c ([c].intercalate texts) = texts.flatMap (splitOn c) := by
  induction texts with
  | nil => exact absurd rfl hne
  | cons text rest ih =>
    cases rest with
    | nil => simp [List.intercalate_singleton]
    | cons next rest =>
      have hjoined : [c].intercalate (text :: next :: rest) = text ++ c :: [c].intercalate (next :: rest) := by
        simp [List.intercalate_cons_cons]
      rw [hjoined, splitOn_append_cons, ih (List.cons_ne_nil next rest), ← List.flatMap_cons]

/-- Texts without the separator are the pieces of the text that it joins them to. -/
theorem splitOn_intercalate {c : Char} {pieces : List (List Char)} (hne : pieces ≠ [])
    (h : ∀ piece ∈ pieces, c ∉ piece) : splitOn c ([c].intercalate pieces) = pieces := by
  have heach : ∀ piece ∈ pieces, splitOn c piece = [piece] := fun piece hpiece => splitOn_of_not_mem (h piece hpiece)
  rw [splitOn_intercalate_eq_flatMap c hne, List.flatMap_def, List.map_congr_left heach, ← List.flatMap_def,
    List.flatMap_singleton']

end RepoConventions.Text
