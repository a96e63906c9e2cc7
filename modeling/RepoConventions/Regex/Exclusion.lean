import RepoConventions.Regex.Reader
import RepoConventions.RuleError

/-!
# Exclusion patterns

Patterns for the full paths of files that a rule leaves out: expressions whose case does not matter and whose dot
matches everything, or wildcards with `*` and `?`. Two backslashes in a pattern stand for a slash.
-/

namespace RepoConventions.Regex

def exclusionFlags : Flags where
  ignoreCase := true
  multiLine := false
  dotAll := true
  crlf := false
  unicode := true
  verbose := false

/-- A pattern with a slash for every pair of backslashes. -/
def withSlashes (pattern : String) : String := .ofList (Text.replacePair '\\' '\\' ['/'] pattern.toList)

def exclusion (pattern : String) : Except RuleError Regex :=
  match ofText? exclusionFlags (withSlashes pattern) with
  | some r => .ok r
  | none => .error (.invalidRegex (withSlashes pattern))

/-- The pattern in which `*` stands for any text and `?` for any character. -/
def wildcardPattern (wildcard : String) : String :=
  .ofList (Text.replacePair '\\' '?' ['.'] (Text.replacePair '\\' '*' ['.', '*'] (escaped wildcard.toList)))

end RepoConventions.Regex
