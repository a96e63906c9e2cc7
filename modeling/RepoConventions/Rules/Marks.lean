/-!
# Marks of a file

What the check of a rule has noted about a file: whether it failed, whether there are warnings, and the reasons in the
order in which they were given.
-/

namespace RepoConventions.Rules

inductive Severity
  | fail
  | warn
  deriving DecidableEq, Repr

/-- One violation as a check reports it. -/
structure Violation where
  severity : Severity
  code : Option String
  reason : Option String
  deriving DecidableEq, Repr

namespace Violation

def markFailed : Violation := ⟨.fail, none, none⟩

def fail (reason : String) : Violation := ⟨.fail, none, some reason⟩

def failCode (code reason : String) : Violation := ⟨.fail, some code, some reason⟩

def warn (reason : String) : Violation := ⟨.warn, none, some reason⟩

def warnCode (code reason : String) : Violation := ⟨.warn, some code, some reason⟩

/-- The code and the reason in one text. -/
def text? (v : Violation) : Option String :=
  match v.code, v.reason with
  | some code, some reason => some (code ++ ": " ++ reason)
  | some code, none => some code
  | none, reason => reason

end Violation

/-- Whether there are violations of a severity, and the texts of those that have one. -/
structure Mark where
  isSet : Bool
  reasons : List String
  deriving DecidableEq, Repr

namespace Mark

def clear : Mark := ⟨false, []⟩

def add (m : Mark) (v : Violation) : Mark := ⟨true, m.reasons ++ v.text?.toList⟩

/-- The lines of a report: one for every reason, or the path alone. -/
def lines (m : Mark) (path : String) : List String :=
  if m.isSet then
    if m.reasons.isEmpty then [path] else m.reasons.map fun reason => path ++ " - " ++ reason
  else []

end Mark

structure Marks where
  failed : Mark
  warned : Mark
  deriving DecidableEq, Repr

namespace Marks

def clear : Marks := ⟨.clear, .clear⟩

def add (m : Marks) (v : Violation) : Marks :=
  match v.severity with
  | .fail => { m with failed := m.failed.add v }
  | .warn => { m with warned := m.warned.add v }

def describe (m : Marks) : String :=
  if m.failed.isSet then
    match m.failed.reasons with
    | [] => "Failed: (no reason)"
    | [only] => "Failed: " ++ only
    | many => "Failed: " ++ toString many.length ++ " reasons"
  else "OK"

end Marks

end RepoConventions.Rules
