import RepoConventions.Files.Path
import RepoConventions.Json.Basic
import RepoConventions.Text.Ascii

/-!
# Configuration

Where the repository is, and how a run treats it. A configuration comes from environment variables, from a root
alone, or from JSON.
-/

namespace RepoConventions

def defaultIgnoreFile : String := "conform.yml"

def warningsReportFile : String := "code-analysis-warnings.md"

structure Config where
  root : String
  ci : Bool
  stepSummary : Option String
  githubOutput : Option String
  privateRepo : Bool
  ignoreFile : String
  deriving DecidableEq, Repr

namespace Config

open Files (Path.join)

def ofRoot (root : String) : Config := ⟨root, false, none, none, false, defaultIgnoreFile⟩

/-- Reads variables; an unset or empty root is the working directory. -/
def ofVariables (workingDirectory : String) (lookup : String → Option String) : Config where
  root := match lookup "GITHUB_WORKSPACE" with
    | some root => if root.isEmpty then workingDirectory else root
    | none => workingDirectory
  ci := lookup "CI" = some "true"
  stepSummary := lookup "GITHUB_STEP_SUMMARY"
  githubOutput := lookup "GITHUB_OUTPUT"
  privateRepo := (lookup "CONFORM_PRIVATE_REPO").any fun v => Text.eqIgnoreCase v "true"
  ignoreFile := defaultIgnoreFile

def withRoot (c : Config) (root : String) : Config := { c with root }

def withIgnoreFile (c : Config) (path : String) : Config := { c with ignoreFile := path }

def withCi (c : Config) (stepSummary githubOutput : Option String) : Config :=
  { c with ci := true, stepSummary, githubOutput }

def withPrivateRepo (c : Config) (privateRepo : Bool) : Config := { c with privateRepo }

/-- The suppression file is relative to the root unless its path is absolute. -/
def ignoreFilePath (c : Config) : String := Files.Path.join c.root c.ignoreFile

/-- Warnings are written to a report under CI with a step summary. -/
def writesReports (c : Config) : Bool := c.ci && c.stepSummary.isSome

def warningsReportPath (c : Config) : String := Files.Path.join c.root warningsReportFile

/-! Reading from JSON -/

/-- The value of a field, its default when there is no such member. -/
def fieldOr {α : Type} (read : Json → Option α) (default : α) : Option Json → Option α
  | some j => read j
  | none => some default

def textOrNull? : Json → Option (Option String)
  | .null => some none
  | .string s => some (some s)
  | _ => none

def ofFields? (root ci stepSummary githubOutput privateRepo ignoreFile : Option Json) : Option Config := do
  return {
    root := ← (← root).string?
    ci := ← fieldOr Json.bool? false ci
    stepSummary := ← fieldOr textOrNull? none stepSummary
    githubOutput := ← fieldOr textOrNull? none githubOutput
    privateRepo := ← fieldOr Json.bool? false privateRepo
    ignoreFile := ← fieldOr Json.string? defaultIgnoreFile ignoreFile }

def fieldNames : List String := ["root", "ci", "step_summary", "github_output", "private_repo", "ignore_file"]

/-- Reads an object with each field at most once and any unknown members, or an array of the fields in order. -/
def ofJson? (j : Json) : Option Config :=
  match j with
  | .object members =>
    let known := (members.map (·.1)).filter fieldNames.contains
    if known.Nodup then
      ofFields? (j.member? "root") (j.member? "ci") (j.member? "step_summary") (j.member? "github_output")
        (j.member? "private_repo") (j.member? "ignore_file")
    else none
  | .array items =>
    if items.length ≤ fieldNames.length then ofFields? items[0]? items[1]? items[2]? items[3]? items[4]? items[5]?
    else none
  | _ => none

end Config

end RepoConventions
