import RepoConventions.Regex.Reader
import RepoConventions.Text.Cut

/-!
# Path patterns

In a pattern `**` stands for any text of one line, a remaining `*` for one or more characters of one path segment,
and every other character for itself in either case. A pattern is written as an expression, which matches whole paths.
-/

namespace RepoConventions.Ignore

/-- What the characters of a pattern are in the expression. Pairs of stars are taken first, from the left. -/
def expressionText : List Char → List Char
  | '*' :: '*' :: rest => ['.', '*'] ++ expressionText rest
  | '*' :: rest => ['[', '^', '/', ']', '+'] ++ expressionText rest
  | c :: rest => Regex.escaped [c] ++ expressionText rest
  | [] => []

def patternFlags : Regex.Flags where
  ignoreCase := true
  multiLine := false
  dotAll := false
  crlf := false
  unicode := true
  verbose := false

def patternExpression? (pattern : String) : Option Regex :=
  Regex.ofText? patternFlags (.ofList (['^'] ++ expressionText pattern.toList ++ ['$']))

/-- A pattern whose expression could not be read would match nothing. -/
def patternMatches (pattern path : String) : Bool := (patternExpression? pattern).any (·.occursIn path)

inductive PatternFault
  | blank
  | threeStars
  deriving DecidableEq, Repr

def PatternFault.message : PatternFault → String
  | blank => "pattern is empty"
  | threeStars => "more than two consecutive '*'"

/-- What is wrong with a pattern that a rule may not have. -/
def patternFault? (pattern : String) : Option PatternFault :=
  if pattern.toList.all Text.isBlank then some .blank
  else if Text.occursIn ['*', '*', '*'] pattern.toList then some .threeStars
  else none

/-- A rule may have every pattern that is not blank and has no three stars in a row. -/
theorem patternFault?_eq_none_iff (pattern : String) :
    patternFault? pattern = none ↔
      (∃ c ∈ pattern.toList, ¬ Text.isBlank c) ∧ ¬ ['*', '*', '*'] <:+: pattern.toList := by
  rw [← Text.occursIn_iff_infix]
  unfold patternFault?
  by_cases hblank : pattern.toList.all Text.isBlank
  · have hnone : ¬ ∃ c ∈ pattern.toList, ¬ Text.isBlank c := by simpa using hblank
    rw [if_pos hblank]
    simp only [hnone, false_and, reduceCtorEq]
  · have hsome : ∃ c ∈ pattern.toList, ¬ Text.isBlank c := by simpa using hblank
    rw [if_neg hblank]
    by_cases hstars : Text.occursIn ['*', '*', '*'] pattern.toList <;> simp only [hstars, hsome] <;> simp

end RepoConventions.Ignore
