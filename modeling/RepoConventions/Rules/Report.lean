/-!
# Reports of rules

What a rule found in all files that it checked. A report without failures passes.
-/

namespace RepoConventions.Rules

/-- A rule with the violations it found. -/
structure RuleFailure where
  rule : String
  violations : List String
  deriving DecidableEq, Repr

/-- The rule and below it its violations, one a line. -/
def RuleFailure.message (f : RuleFailure) : String :=
  f.rule ++ ":\n  > " ++ "\n  > ".intercalate f.violations

structure RuleReport where
  rule : String
  filesChecked : Nat
  failures : List String
  warnings : List String
  deriving DecidableEq, Repr

namespace RuleReport

def passed (r : RuleReport) : Bool := r.failures.isEmpty

def failure (r : RuleReport) : RuleFailure := ⟨r.rule, r.failures⟩

def failureMessage? (r : RuleReport) : Option String := if r.passed then none else some r.failure.message

/-- The report itself when it passes. -/
def result (r : RuleReport) : Except RuleFailure RuleReport := if r.passed then .ok r else .error r.failure

end RuleReport

end RepoConventions.Rules
