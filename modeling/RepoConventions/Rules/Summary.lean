import RepoConventions.Json.Written
import RepoConventions.Rules.Selection

/-!
# Summaries of checks

What a check tells about the rules it ran, as lines or as JSON, and the code it ends with.
-/

namespace RepoConventions.Rules

def Outcome.passed : Outcome → Bool
  | .ok report => report.passed
  | .error _ => false

/-- Two when some rule could not run, else one when some rule found violations, else zero. -/
def exitCode (outcomes : List Outcome) : Nat :=
  if outcomes.any fun o => !o.isOk then 2
  else if outcomes.any fun o => !Outcome.passed o then 1
  else 0

def outcomeJson (r : BuiltinRule) : Outcome → Json
  | .ok report => .object [("rule", .string r.id), ("passed", .bool report.passed),
      ("files_checked", .nat report.filesChecked), ("failures", .texts report.failures),
      ("warnings", .texts report.warnings)]
  | .error e => .object [("rule", .string r.id), ("passed", .bool false), ("files_checked", .nat 0),
      ("failures", .texts []), ("warnings", .texts []), ("error", .string e.message)]

def summaryJson (outcomes : List (BuiltinRule × Outcome)) : Json :=
  .object [("passed", .bool (outcomes.all fun (_, o) => Outcome.passed o)),
    ("rules", .array (outcomes.map fun (r, o) => outcomeJson r o))]

def reportLines (r : BuiltinRule) (report : RuleReport) : List String :=
  (match report.failureMessage? with
    | some message => ["FAIL " ++ message, "     " ++ r.description]
    | none => ["ok   " ++ r.id ++ " (" ++ .ofList (Decimal.digitsText report.filesChecked) ++ " files)"]) ++
  report.warnings.map fun w => "warn " ++ r.id ++ " - " ++ w

/-- The lines about the rules that ran. -/
def summaryLines (outcomes : List (BuiltinRule × Outcome)) : List String :=
  outcomes.flatMap fun (r, o) => match o with
    | .ok report => reportLines r report
    | .error _ => []

/-- What is to say about the rules that could not run. -/
def summaryErrors (outcomes : List (BuiltinRule × Outcome)) : List String :=
  outcomes.filterMap fun (r, o) => match o with
    | .ok _ => none
    | .error e => some (r.id ++ ": " ++ e.message)

end RepoConventions.Rules
