import RepoConventions.Ignore.Pattern
import RepoConventions.Proofs.Regex.Pieces
import RepoConventions.Proofs.Text.Folding

/-!
# What a path pattern matches

The expression of a pattern is read back as the sequence of its tokens. It matches a path exactly when the whole path
splits into pieces that the tokens take in turn.
-/

namespace RepoConventions.Ignore

open Regex (Spans SpansAll)

inductive Token
  | anyText
  | inSegment
  | char (c : Char)
  deriving DecidableEq, Repr

def tokens : List Char → List Token
  | '*' :: '*' :: rest => .anyText :: tokens rest
  | '*' :: rest => .inSegment :: tokens rest
  | c :: rest => .char c :: tokens rest
  | [] => []

def Token.Takes : Token → List Char → Prop
  | anyText, _ => True
  | inSegment, piece => piece ≠ [] ∧ '/' ∉ piece
  | char c, piece => ∃ d, piece = [d] ∧ Text.sameFold c d

/-- A text falls into pieces that the tokens take in turn. -/
inductive Splits : List Token → List Char → Prop
  | nil : Splits [] []
  | cons {t : Token} {ts : List Token} {piece rest : List Char} (htake : t.Takes piece) (hrest : Splits ts rest) :
    Splits (t :: ts) (piece ++ rest)

theorem splits_nil_iff {s : List Char} : Splits [] s ↔ s = [] := by
  constructor
  · intro h
    cases h
    rfl
  · intro heq
    subst heq
    exact .nil

theorem splits_cons_iff {t : Token} {ts : List Token} {s : List Char} :
    Splits (t :: ts) s ↔ ∃ piece rest, s = piece ++ rest ∧ t.Takes piece ∧ Splits ts rest := by
  constructor
  · intro h
    cases h with
    | cons htake hrest => exact ⟨_, _, rfl, htake, hrest⟩
  · intro hparts
    obtain ⟨piece, rest, rfl, htake, hrest⟩ := hparts
    exact .cons htake hrest

/-! Tokens in the expression -/

def Token.text : Token → List Char
  | anyText => ['.', '*']
  | inSegment => ['[', '^', '/', ']', '+']
  | char c => Regex.escaped [c]

def Token.regex : Token → Regex
  | anyText => .repeated (.dot .notLineFeed) 0 none
  | inSegment => .repeated (.set .simple (.bracketed true (.range 47 47))) 1 none
  | char c => .literal .simple c

theorem expressionText_eq (pattern : List Char) : expressionText pattern = (tokens pattern).flatMap Token.text := by
  induction pattern using tokens.induct with
  | case1 rest ih => rw [expressionText, tokens, List.flatMap_cons, ih]; rfl
  | case2 rest h ih => rw [expressionText, tokens, List.flatMap_cons, ih]; rfl; all_goals exact h
  | case3 c rest h₁ h₂ ih => rw [expressionText, tokens, List.flatMap_cons, ih]; rfl; all_goals first | exact h₁ | exact h₂
  | case4 => rfl

theorem readsAs_text (t : Token) : Regex.ReadsAs patternFlags t.text t.regex := by
  cases t with
  | anyText =>
    intro fuel p rest hf hrest
    obtain ⟨_, names, inGroup, branches, items⟩ := p
    subst hf
    refine ⟨fuel, Nat.le_refl fuel, ?_⟩
    conv_rhs => rw [← hrest]
    rfl
  | inSegment =>
    intro fuel p rest hf hrest
    obtain ⟨_, names, inGroup, branches, items⟩ := p
    subst hf
    refine ⟨fuel + 3, Nat.le_add_right fuel 3, ?_⟩
    conv_rhs => rw [← hrest]
    rfl
  | char c => exact Regex.readsAs_escaped rfl c

/-- No token begins with the mark of a repetition that prefers few. -/
theorem dropLazy_text (t : Token) (rest : List Char) : Regex.dropLazy (t.text ++ rest) = t.text ++ rest := by
  cases t with
  | anyText => rfl
  | inSegment => rfl
  | char c => exact Regex.dropLazy_escaped c rest

theorem nesting_regex_le (t : Token) (b : Regex.Beside) : t.regex.nesting b ≤ 2 := by
  cases t <;> simp [Token.regex, Regex.nesting, Regex.CharSet.nesting]

/-- The expression of a pattern is the sequence of its tokens between the ends of a text. -/
theorem patternExpression?_eq (pattern : String) :
    patternExpression? pattern =
      some (Regex.ofSequence (.look .textStart :: ((tokens pattern.toList).map Token.regex ++ [.look .textEnd]))) := by
  let start : Regex.Progress := ⟨patternFlags, [], false, [], [⟨.look .textStart, true⟩]⟩
  obtain ⟨left, hleft, hread⟩ := Regex.rest?_texts readsAs_text dropLazy_text (tokens pattern.toList) 2 start
    rfl (rfl : Regex.dropLazy ['$'] = ['$'])
  obtain ⟨left, rfl⟩ := Nat.exists_eq_add_of_le' hleft
  have hnesting : (Regex.ofSequence
      (.look .textStart :: ((tokens pattern.toList).map Token.regex ++ [.look .textEnd]))).nesting .nothing ≤
        Regex.nestingLimit := by
    have hparts : ∀ r ∈ Regex.look .textStart :: ((tokens pattern.toList).map Token.regex ++ [Regex.look .textEnd]),
        ∀ b, r.nesting b ≤ 2 := by
      intro r hr b
      simp only [List.mem_cons, List.mem_append, List.mem_map, List.not_mem_nil, or_false] at hr
      rcases hr with rfl | ⟨t, -, rfl⟩ | rfl
      · exact Nat.zero_le _
      · exact nesting_regex_le t b
      · exact Nat.zero_le _
    exact Nat.le_trans (Regex.nesting_ofSequence_le hparts .nothing) (by decide)
  have hstart (fuel : Nat) (rest : List Char) :
      Regex.rest? (fuel + 1) ⟨patternFlags, [], false, [], []⟩ ('^' :: rest) = Regex.rest? fuel start rest := rfl
  have hend (p : Regex.Progress) (hflags : p.flags = patternFlags) :
      Regex.rest? (left + 2) p ['$'] = Regex.rest? (left + 1) (p.push (.look .textEnd)) [] := by
    obtain ⟨_, names, inGroup, branches, items⟩ := p
    subst hflags
    rfl
  rw [patternExpression?, Regex.ofText?, String.toList_ofList, expressionText_eq]
  simp only [List.cons_append, List.nil_append, List.length_cons, List.length_append, List.length_nil, Nat.zero_add]
  rw [hstart, Nat.add_comm _ 2, hread, hend _ (by rw [Regex.Progress.pushAll_eq]), ← Regex.Progress.pushAll_concat,
    Regex.rest?_end rfl rfl]
  exact if_pos hnesting

/-! Tokens on a path -/

theorem notSlash_has_iff {c : Char} :
    (Regex.CharSet.bracketed true (.range 47 47)).has .simple c.toNat = true ↔ c ≠ '/' := by
  have hany : ((Text.orbit c.toNat).any ((Regex.CharSet.range 47 47).has .simple)) = true ↔ c = '/' := by
    rw [List.any_eq_true]
    constructor
    · intro h
      obtain ⟨m, hm, hrange⟩ := h
      simp only [Regex.CharSet.has, Bool.and_eq_true, decide_eq_true_eq] at hrange
      have hm47 : m = 47 := by omega
      subst hm47
      have hc := Text.mem_orbit_slash_iff.mp hm
      exact Char.toNat_inj.mp hc
    · intro heq
      subst heq
      exact ⟨47, Text.mem_orbit_slash_iff.mpr rfl, rfl⟩
  show ((Text.orbit c.toNat).any ((Regex.CharSet.range 47 47).has .simple) != true) = true ↔ c ≠ '/'
  rw [bne_iff_ne]
  exact not_congr hany

/-- Which pieces of a path the expression of a token takes: any text stays in its line. -/
def Token.TakesInLine : Token → List Char → Prop
  | anyText, piece => '\n' ∉ piece
  | inSegment, piece => piece ≠ [] ∧ '/' ∉ piece
  | char c, piece => ∃ d, piece = [d] ∧ Text.sameFold c d

theorem takesPieces_regex (t : Token) : Regex.TakesPieces t.regex t.TakesInLine := by
  cases t with
  | anyText =>
    have hdot : Regex.TakesPieces Token.anyText.regex _ := Regex.takesPieces_repeated (fun _ => rfl) 0
    refine hdot.congr fun piece => ?_
    simp only [Regex.Dot.has, Token.TakesInLine, decide_eq_true_eq, Nat.zero_le, true_and]
    exact ⟨fun h hmem => h _ hmem rfl, fun h c hc heq => h (heq ▸ hc)⟩
  | inSegment =>
    have hset : Regex.TakesPieces Token.inSegment.regex _ := Regex.takesPieces_repeated (fun _ => rfl) 1
    refine hset.congr fun piece => ?_
    simp only [notSlash_has_iff, Token.TakesInLine]
    refine and_congr List.length_pos_iff ?_
    exact ⟨fun h hmem => h _ hmem rfl, fun h c hc heq => h (heq ▸ hc)⟩
  | char c => exact Regex.takesPieces_literal c

theorem takesInLine_iff {t : Token} {piece : List Char} (h : '\n' ∉ piece) : t.TakesInLine piece ↔ t.Takes piece := by
  cases t with
  | anyText => simp only [Token.TakesInLine, Token.Takes, h, not_false_eq_true]
  | inSegment => rfl
  | char c => rfl

theorem inPieces_iff_splits {ts : List Token} {s : List Char} (h : '\n' ∉ s) :
    Regex.InPieces Token.TakesInLine ts s ↔ Splits ts s := by
  induction ts generalizing s with
  | nil => rw [Regex.inPieces_nil_iff, splits_nil_iff]
  | cons t ts ih =>
    rw [Regex.inPieces_cons_iff, splits_cons_iff]
    refine exists_congr fun piece => exists_congr fun rest => and_congr_right fun heq => ?_
    subst heq
    have hpiece : '\n' ∉ piece := fun hmem => h (List.mem_append_left rest hmem)
    have hrest : '\n' ∉ rest := fun hmem => h (List.mem_append_right piece hmem)
    rw [takesInLine_iff hpiece, ih hrest]

/-- A pattern matches the paths that fall into pieces which its tokens take, each any text within a line. -/
theorem patternMatches_iff (pattern path : String) :
    patternMatches pattern path = true ↔ Regex.InPieces Token.TakesInLine (tokens pattern.toList) path.toList := by
  rw [← Regex.occursIn_whole_iff takesPieces_regex, patternMatches, patternExpression?_eq]
  rfl

theorem spansAll_iff_splits (ts : List Token) (passed : List Char) {rest : List Char} (h : '\n' ∉ rest) :
    (∃ j, SpansAll (passed ++ rest) (ts.map Token.regex ++ [.look .textEnd]) passed.length j) ↔ Splits ts rest :=
  (Regex.spansAll_toEnd_iff takesPieces_regex ts passed rest).trans (inPieces_iff_splits h)

/-- Every pattern has an expression, which matches a path of one line exactly when the path falls into pieces that the
tokens of the pattern take in turn. -/
theorem patternExpression?_occursIn_iff (pattern : String) :
    ∃ r, patternExpression? pattern = some r ∧
      ∀ path : String, '\n' ∉ path.toList → (r.occursIn path = true ↔ Splits (tokens pattern.toList) path.toList) := by
  refine ⟨_, patternExpression?_eq pattern, fun path h => ?_⟩
  have hsplits := spansAll_iff_splits (tokens pattern.toList) [] h
  rw [Regex.occursIn_iff, ← hsplits]
  simp only [Regex.spans_ofSequence, SpansAll, Spans, List.nil_append, List.length_nil]
  constructor
  · intro hparts
    obtain ⟨i, j, hi, k, ⟨rfl, hstart⟩, hrest⟩ := hparts
    have hzero : i = 0 := by
      apply Classical.byContradiction
      intro hne
      have hlt : i - 1 < path.toList.length := by omega
      rw [Regex.charBefore, if_neg hne, List.getElem?_eq_getElem hlt] at hstart
      cases hstart
    subst hzero
    exact ⟨j, hrest⟩
  · intro hparts
    obtain ⟨j, hrest⟩ := hparts
    exact ⟨0, j, Nat.zero_le _, 0, ⟨rfl, rfl⟩, hrest⟩

/-- The case of a letter does not matter, a star stays in its segment, and a pair of stars takes what is left. -/
theorem patternExpression?_occursIn_segments :
    ∃ r, patternExpression? "a*/**" = some r ∧ '\n' ∉ "Ab/c/d".toList ∧ r.occursIn "Ab/c/d" = true := by
  obtain ⟨r, hr, hmatches⟩ := patternExpression?_occursIn_iff "a*/**"
  refine ⟨r, hr, by decide, (hmatches "Ab/c/d" (by decide)).mpr ?_⟩
  have htokens : tokens "a*/**".toList = [.char 'a', .inSegment, .char '/', .anyText] := by decide
  have hpath : "Ab/c/d".toList = ['A'] ++ (['b'] ++ (['/'] ++ (['c', '/', 'd'] ++ []))) := by decide
  rw [htokens, hpath]
  refine .cons ⟨'A', rfl, by decide⟩ (.cons ⟨by decide, by decide⟩ (.cons ⟨'/', rfl, by decide⟩ (.cons trivial .nil)))

end RepoConventions.Ignore
