import RepoConventions.Ignore.Entry

/-!
# Ignore rules

A rule excuses violations of one check in the files whose relative paths match its pattern. A rule with a code
excuses only violations of that code.
-/

namespace RepoConventions.Ignore

/-- The pattern that every path matches. -/
def matchAll : String := "*"

theorem patternFault?_matchAll : patternFault? matchAll = none := rfl

structure Rule where
  test : String
  path : String
  code : Option String
  path_valid : patternFault? path = none

namespace Rule

def ofEntry (e : Entry) : Except RuleError Rule :=
  match h : patternFault? e.path with
  | none => .ok ⟨e.test, e.path, e.code, h⟩
  | some fault => .error (.invalidGlob e.path fault)

def coversCode (r : Rule) (code : Option String) : Bool := r.code.isNone || r.code == code

def coversPath (r : Rule) (path : String) : Bool := r.path == matchAll || patternMatches r.path path

def appliesTo (r : Rule) (code : Option String) (path : String) : Bool := r.coversCode code && r.coversPath path

end Rule

end RepoConventions.Ignore
