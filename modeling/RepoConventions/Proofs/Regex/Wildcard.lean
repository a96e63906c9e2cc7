import RepoConventions.Proofs.Regex.Pieces
import RepoConventions.Regex.Exclusion

/-!
# What a wildcard matches

A wildcard is escaped and then rewritten three times, but no replacement begins in the text of one character and ends in
that of the next. So its expression is the sequence of its characters, and matches a path just when some part of the path
falls into pieces that they take in turn.
-/

namespace RepoConventions

/-! Replacing pairs -/

namespace Text

variable {x y : Char} {new : List Char}

/-- Where no pair begins in the first text and ends in the second, each is rewritten by itself. -/
theorem replacePair_append {a b : List Char} (h : a.getLast? = some x → b.head? ≠ some y) :
    replacePair x y new (a ++ b) = replacePair x y new a ++ replacePair x y new b := by
  induction a using replacePair.induct x y with
  | case1 c d rest hpair ih =>
    have hlast : rest.getLast? = some x → (c :: d :: rest).getLast? = some x := by
      intro hrest
      rw [List.getLast?_cons_cons, List.getLast?_cons, hrest]
      rfl
    rw [List.cons_append, List.cons_append, replacePair, if_pos hpair, replacePair, if_pos hpair,
      ih fun hrest => h (hlast hrest), List.append_assoc]
  | case2 c d rest hpair ih =>
    rw [List.cons_append, List.cons_append, replacePair, if_neg hpair, replacePair, if_neg hpair]
    rw [List.cons_append] at ih
    rw [ih h, List.cons_append]
  | case3 cs hshort =>
    match cs, hshort with
    | [], _ => rfl
    | [c], _ =>
      cases b with
      | nil => rfl
      | cons d rest =>
        have hpair : ¬ (decide (c = x) && decide (d = y)) = true := by
          intro hboth
          obtain ⟨rfl, rfl⟩ := (Bool.and_eq_true_iff.mp hboth).imp of_decide_eq_true of_decide_eq_true
          exact h rfl rfl
        rw [List.cons_append, List.nil_append, replacePair, if_neg hpair]
        rfl
    | c :: d :: rest, hshort => exact absurd rfl (hshort c d rest)

/-- Texts that are rewritten one by one: a pair is either the whole of one of them or within it. -/
theorem replacePair_flatMap {t : Char → List Char}
    (hapart : ∀ c, t c = [x, y] ∨ ∀ s : List Char, (t c).getLast? = some x → (s.flatMap t).head? ≠ some y)
    (s : List Char) : replacePair x y new (s.flatMap t) = s.flatMap fun c => replacePair x y new (t c) := by
  have hone (c : Char) (rest : List Char) : replacePair x y new (t c ++ rest.flatMap t) =
      replacePair x y new (t c) ++ replacePair x y new (rest.flatMap t) := by
    rcases hapart c with hpair | hnext
    · rw [hpair]
      simp [replacePair]
    · exact replacePair_append (hnext rest)
  induction s with
  | nil => rfl
  | cons c rest ih => rw [List.flatMap_cons, List.flatMap_cons, hone, ih]

end Text

namespace Regex

/-- What a character of a wildcard stands for. -/
inductive WildcardPart
  | anyText
  | anyChar
  | slash
  | char (c : Char)
  deriving DecidableEq, Repr

namespace WildcardPart

def ofChar (c : Char) : WildcardPart :=
  match c with
  | '*' => anyText
  | '?' => anyChar
  | '\\' => slash
  | c => char c

def Takes : WildcardPart → List Char → Prop
  | anyText, _ => True
  | anyChar, piece => ∃ d, piece = [d]
  | slash, piece => piece = ['/']
  | char c, piece => ∃ d, piece = [d] ∧ Text.sameFold c d

end WildcardPart

/-- Some part of a path falls into pieces that the characters of a wildcard take in turn. -/
def WildcardOccurs (wildcard path : String) : Prop :=
  ∃ before part after, path.toList = before ++ part ++ after ∧
    InPieces WildcardPart.Takes (wildcard.toList.map .ofChar) part

/-! The expression of a wildcard -/

namespace WildcardPart

def text : WildcardPart → List Char
  | anyText => ['.', '*']
  | anyChar => ['.']
  | slash => ['/']
  | char c => escaped [c]

def regex : WildcardPart → Regex
  | anyText => .repeated (.dot .anything) 0 none
  | anyChar => .dot .anything
  | slash => .literal .simple '/'
  | char c => .literal .simple c

end WildcardPart

/-! Escaping and the three rewritings -/

theorem escaped_eq_flatMap (cs : List Char) : escaped cs = cs.flatMap fun c => escaped [c] := by
  simp only [escaped, List.flatMap_singleton]

theorem getLast?_escaped (c : Char) : (escaped [c]).getLast? = some c := by
  rcases escaped_cases c with ⟨-, htext⟩ | ⟨-, htext⟩ <;> rw [htext] <;> rfl

theorem replacePair_escaped {y c : Char} (hc : c ≠ y) (new : List Char) :
    Text.replacePair '\\' y new (escaped [c]) = escaped [c] := by
  rcases escaped_cases c with ⟨-, htext⟩ | ⟨-, htext⟩
  · rw [htext]
    simp [Text.replacePair, hc]
  · rw [htext]
    rfl

theorem head?_escaped_ne {y : Char} (hy : isMeta y = true) (hne : y ≠ '\\') (c : Char) :
    (escaped [c]).head? ≠ some y := by
  rcases escaped_cases c with ⟨-, htext⟩ | ⟨hplain, htext⟩
  · rw [htext]
    exact fun heq => hne (Option.some.inj heq).symm
  · rw [htext]
    exact fun heq => ne_of_not_isMeta hplain hy (Option.some.inj heq)

/-- The text of a character once stars are rewritten, and then question marks. -/
def starless (c : Char) : List Char := Text.replacePair '\\' '*' ['.', '*'] (escaped [c])

def markless (c : Char) : List Char := Text.replacePair '\\' '?' ['.'] (starless c)

theorem starless_eq (c : Char) : starless c = if c = '*' then ['.', '*'] else escaped [c] := by
  by_cases hstar : c = '*'
  · subst hstar
    rfl
  · rw [if_neg hstar, starless, replacePair_escaped hstar]

theorem markless_eq (c : Char) :
    markless c = if c = '*' then ['.', '*'] else if c = '?' then ['.'] else escaped [c] := by
  by_cases hstar : c = '*'
  · subst hstar
    rfl
  · rw [markless, starless_eq, if_neg hstar, if_neg hstar]
    by_cases hmark : c = '?'
    · subst hmark
      rfl
    · rw [if_neg hmark, replacePair_escaped hmark]

theorem replacePair_markless (c : Char) :
    Text.replacePair '\\' '\\' ['/'] (markless c) = (WildcardPart.ofChar c).text := by
  by_cases hstar : c = '*'
  · subst hstar
    rfl
  · by_cases hmark : c = '?'
    · subst hmark
      rfl
    · rw [markless_eq, if_neg hstar, if_neg hmark]
      by_cases hbackslash : c = '\\'
      · subst hbackslash
        rfl
      · rw [replacePair_escaped hbackslash, WildcardPart.ofChar]
        · rfl
        all_goals assumption

theorem head?_starless_ne (c : Char) : (starless c).head? ≠ some '?' := by
  rw [starless_eq]
  split
  · decide
  · exact head?_escaped_ne rfl (by decide) c

/-- Only a backslash is left with a backslash at the end of its text, and all of that is one pair. -/
theorem markless_apart (c : Char) : markless c = ['\\', '\\'] ∨ (markless c).getLast? ≠ some '\\' := by
  rw [markless_eq]
  split
  · exact .inr (by decide)
  · split
    · exact .inr (by decide)
    · by_cases hbackslash : c = '\\'
      · subst hbackslash
        exact .inl rfl
      · rw [getLast?_escaped]
        exact .inr fun heq => hbackslash (Option.some.inj heq)

theorem head?_flatMap_ne {t : Char → List Char} {y : Char} (hhead : ∀ c, (t c).head? ≠ some y) (cs : List Char) :
    (cs.flatMap t).head? ≠ some y := by
  induction cs with
  | nil => exact (Option.some_ne_none y).symm
  | cons c rest ih =>
    rw [List.flatMap_cons, List.head?_append]
    cases hc : (t c).head? with
    | none => exact ih
    | some d =>
      have hne := hhead c
      rwa [hc] at hne

/-- The expression of a wildcard is written part by part: no pair that is rewritten begins in one text and ends in the
next. -/
theorem withSlashes_wildcardPattern (wildcard : String) :
    withSlashes (wildcardPattern wildcard) =
      .ofList ((wildcard.toList.map WildcardPart.ofChar).flatMap WildcardPart.text) := by
  have hstars : Text.replacePair '\\' '*' ['.', '*'] (escaped wildcard.toList) = wildcard.toList.flatMap starless := by
    rw [escaped_eq_flatMap]
    exact Text.replacePair_flatMap (fun c => .inr fun s _ => head?_flatMap_ne (head?_escaped_ne rfl (by decide)) s) _
  have hmarks : Text.replacePair '\\' '?' ['.'] (wildcard.toList.flatMap starless) = wildcard.toList.flatMap markless :=
    Text.replacePair_flatMap (fun c => .inr fun s _ => head?_flatMap_ne head?_starless_ne s) _
  have hslashes : Text.replacePair '\\' '\\' ['/'] (wildcard.toList.flatMap markless) =
      wildcard.toList.flatMap fun c => (WildcardPart.ofChar c).text := by
    rw [Text.replacePair_flatMap fun c => (markless_apart c).imp_right fun hlast s heq => absurd heq hlast]
    simp only [replacePair_markless]
  rw [withSlashes, wildcardPattern, String.toList_ofList, hstars, hmarks, hslashes, List.flatMap_map]

/-! The expression -/

namespace WildcardPart

theorem readsAs_text (part : WildcardPart) : ReadsAs exclusionFlags part.text part.regex := by
  cases part with
  | anyText =>
    intro fuel p rest hf hrest
    obtain ⟨_, names, inGroup, branches, items⟩ := p
    subst hf
    refine ⟨fuel, Nat.le_refl fuel, ?_⟩
    conv_rhs => rw [← hrest]
    rfl
  | anyChar =>
    intro fuel p rest hf _
    obtain ⟨_, names, inGroup, branches, items⟩ := p
    subst hf
    exact ⟨fuel, Nat.le_refl fuel, rfl⟩
  | slash => exact readsAs_escaped rfl '/'
  | char c => exact readsAs_escaped rfl c

theorem dropLazy_text (part : WildcardPart) (rest : List Char) : dropLazy (part.text ++ rest) = part.text ++ rest := by
  cases part with
  | anyText => rfl
  | anyChar => rfl
  | slash => rfl
  | char c => exact dropLazy_escaped c rest

theorem nesting_regex_le (part : WildcardPart) (b : Beside) : part.regex.nesting b ≤ 1 := by
  cases part <;> simp [regex, nesting]

theorem takesPieces_regex (part : WildcardPart) : TakesPieces part.regex part.Takes := by
  cases part with
  | anyText =>
    have hdot : TakesPieces anyText.regex _ := takesPieces_repeated (fun _ => rfl) 0
    refine hdot.congr fun piece => ?_
    simp [Dot.has, Takes]
  | anyChar =>
    have hdot : TakesPieces anyChar.regex _ := takesPieces_single fun _ => rfl
    refine hdot.congr fun piece => ?_
    simp [Dot.has, Takes]
  | slash =>
    refine (takesPieces_literal '/').congr fun piece => ?_
    simp [Text.sameFold_slash_iff, Takes]
  | char c => exact takesPieces_literal c

end WildcardPart

def wildcardExpression (wildcard : String) : Regex :=
  ofSequence ((wildcard.toList.map WildcardPart.ofChar).map WildcardPart.regex)

theorem exclusion_wildcardPattern (wildcard : String) :
    exclusion (wildcardPattern wildcard) = .ok (wildcardExpression wildcard) := by
  have hnesting (part : WildcardPart) (b : Beside) : part.regex.nesting b < nestingLimit :=
    Nat.lt_of_le_of_lt (part.nesting_regex_le b) (by decide)
  rw [exclusion, withSlashes_wildcardPattern,
    ofText?_flatMap WildcardPart.readsAs_text WildcardPart.dropLazy_text hnesting]
  rfl

theorem wildcardExpression_occursIn_iff (wildcard path : String) :
    (wildcardExpression wildcard).occursIn path = true ↔ WildcardOccurs wildcard path :=
  occursIn_sequence_iff WildcardPart.takesPieces_regex _ path

instance (wildcard path : String) : Decidable (WildcardOccurs wildcard path) :=
  decidable_of_iff _ (wildcardExpression_occursIn_iff wildcard path)

example : WildcardOccurs "a*\\?.CS" "/r/a\n/b.cs" := by decide

theorem not_occursIn_wildcardExpression (wildcard path : String) :
    (!(wildcardExpression wildcard).occursIn path) = decide (¬ WildcardOccurs wildcard path) := by
  rw [Bool.eq_iff_iff, decide_eq_true_iff, ← wildcardExpression_occursIn_iff, Bool.not_eq_true', Bool.not_eq_true]

end Regex

end RepoConventions
